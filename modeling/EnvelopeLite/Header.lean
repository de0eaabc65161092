import EnvelopeLite.Common
import EnvelopeLite.Text
import EnvelopeLite.KeyedLists

namespace EnvelopeLite.Header

open EnvelopeLite.Common EnvelopeLite.Text EnvelopeLite.KeyedLists

def isTokenByte (byte : UInt8) : Bool :=
  (0x30 ≤ byte && byte ≤ 0x39) || (0x41 ≤ byte && byte ≤ 0x5a) ||
    (0x61 ≤ byte && byte ≤ 0x7a) ||
    -- the punctuation of an RFC token, in the order the source lists it
    [0x21, 0x23, 0x24, 0x25, 0x26, 0x27, 0x2a, 0x2b, 0x2d, 0x2e, 0x5e, 0x5f, 0x60, 0x7c,
      0x7e].contains byte

def isToken (name : String) : Bool := name != "" && (utf8 name).all isTokenByte

def isDisallowedValueCharacter (character : Char) : Bool :=
  (character.val ≤ 0x1f && character != '\t') || character.val == 0x7f

theorem isDisallowedValueCharacter_of_graphic {c : Char} (hlow : 33 ≤ c.toNat)
    (hhigh : c.toNat ≤ 126) : isDisallowedValueCharacter c = false := by
  simp [isDisallowedValueCharacter, UInt32.le_iff_toNat_le, ← UInt32.toNat_inj]
  omega

def isHeaderText (value : String) : Bool := !value.toList.any isDisallowedValueCharacter

theorem isHeaderText_iff {value : String} : isHeaderText value = true ↔
    ∀ c ∈ value.toList, isDisallowedValueCharacter c = false := by
  simp only [isHeaderText, Bool.not_eq_true', List.any_eq_false, Bool.not_eq_true]

theorem isHeaderText_of_graphic {value : String} (h : Graphic value) :
    isHeaderText value = true :=
  isHeaderText_iff.mpr fun c hc =>
    isDisallowedValueCharacter_of_graphic (h.visible c hc).1 (h.visible c hc).2

/-- A header name keeps its wire casing; names are compared by the lowercase form. -/
@[ext] structure HeaderName where
  original : String
  canonical : String
  token : isToken original = true
  canonical_eq : canonical = toAsciiLowercase original
  deriving Repr

namespace HeaderName

def new (name : String) : Except Error HeaderName :=
  if h : isToken name = true then .ok ⟨name, toAsciiLowercase name, h, rfl⟩
  else .error .invalidHeader

def asStr (name : HeaderName) : String := name.original

instance : BEq HeaderName := ⟨fun a b => a.canonical == b.canonical⟩

theorem beq_iff {a b : HeaderName} : (a == b) = true ↔ a.canonical = b.canonical := by
  change (a.canonical == b.canonical) = true ↔ _
  exact beq_iff_eq

theorem any_beq_iff {α : Type} {l : List α} {f : α → HeaderName} {name : HeaderName} :
    l.any (fun a => f a == name) = true ↔ ¬ ∀ a ∈ l, (f a).canonical ≠ name.canonical := by
  simp only [List.any_eq_true, beq_iff, not_forall, not_not, exists_prop]

theorem asStr_ne_empty (name : HeaderName) : name.asStr ≠ "" := by
  have htoken := name.token
  rw [isToken, Bool.and_eq_true, bne_iff_ne] at htoken
  exact htoken.1

theorem asStr_injective : Function.Injective asStr := by
  intro a b h
  have ho : a.original = b.original := h
  apply HeaderName.ext ho
  rw [a.canonical_eq, b.canonical_eq, ho]

@[simp] theorem new_ok_iff {s : String} {name : HeaderName} :
    new s = .ok name ↔ name.asStr = s := by
  unfold new
  split
  · next h =>
    rw [Except.ok.injEq]
    constructor
    · rintro rfl
      rfl
    · intro hs
      exact (asStr_injective hs).symm
  · next h =>
    simp only [reduceCtorEq, false_iff]
    rintro rfl
    exact h name.token

end HeaderName

abbrev HeaderValue := {value : String // isHeaderText value = true}

namespace HeaderValue

def new (value : String) : Except Error HeaderValue :=
  if h : isHeaderText value = true then .ok ⟨value, h⟩ else .error .invalidHeader

def asStr (value : HeaderValue) : String := value.1

@[simp] theorem new_ok_iff {s : String} {value : HeaderValue} :
    new s = .ok value ↔ value.asStr = s := by
  unfold new
  split
  · rw [Except.ok.injEq, Subtype.ext_iff, eq_comm]
    rfl
  · next h =>
    simp only [reduceCtorEq, false_iff]
    rintro rfl
    exact h value.2

end HeaderValue

abbrev Entry := HeaderName × HeaderValue

namespace Entry

def canonical (e : Entry) : String := e.1.canonical

def texts (e : Entry) : String × String := (e.1.asStr, HeaderValue.asStr e.2)

theorem canonical_eq_iff {a b : Entry} :
    a.canonical = b.canonical ↔ eqIgnoreAsciiCase a.1.asStr b.1.asStr = true := by
  rw [eqIgnoreAsciiCase_iff, canonical, canonical, a.1.canonical_eq, b.1.canonical_eq]
  rfl

end Entry

def NamesApart (entries : List Entry) : Prop :=
  entries.Pairwise fun a b => ¬ eqIgnoreAsciiCase a.1.asStr b.1.asStr = true

theorem namesApart_iff {entries : List Entry} :
    NamesApart entries ↔ UniqueKeys Entry.canonical entries := by
  rw [NamesApart, UniqueKeys, List.Nodup, List.pairwise_map]
  simp only [ne_eq, Entry.canonical_eq_iff]

theorem namesApart_append {l m : List Entry} : NamesApart (l ++ m) ↔
    NamesApart l ∧ NamesApart m ∧
      ¬ ∃ a ∈ l, ∃ b ∈ m, eqIgnoreAsciiCase a.1.asStr b.1.asStr = true := by
  rw [NamesApart, List.pairwise_append]
  simp only [not_exists, not_and]
  rfl

theorem exists_entries {headers : List (String × String)}
    (h : ∀ t ∈ headers, isToken t.1 = true ∧ isHeaderText t.2 = true) :
    ∃ entries : List Entry, entries.map Entry.texts = headers := by
  let entry (t : {t // t ∈ headers}) : Entry :=
    (⟨t.1.1, _, (h t.1 t.2).1, rfl⟩, ⟨t.1.2, (h t.1 t.2).2⟩)
  refine ⟨headers.attach.map entry, ?_⟩
  rw [List.map_map]
  exact headers.attach_map_subtype_val

theorem uniqueKeys_asStr {names : List HeaderName} : UniqueKeys HeaderName.canonical names ↔
    UniqueKeys toAsciiLowercase (names.map HeaderName.asStr) := by
  have hcanonical : HeaderName.canonical = toAsciiLowercase ∘ HeaderName.asStr :=
    funext fun name => name.canonical_eq
  rw [UniqueKeys, UniqueKeys, List.map_map, hcanonical]

theorem uniqueKeys_texts {entries : List Entry} : UniqueKeys Entry.canonical entries ↔
    UniqueKeys (fun h => toAsciiLowercase h.1) (entries.map Entry.texts) := by
  have hcanonical : Entry.canonical =
      (fun h : String × String => toAsciiLowercase h.1) ∘ Entry.texts :=
    funext fun e => e.1.canonical_eq
  rw [UniqueKeys, UniqueKeys, List.map_map, hcanonical]

/-- A header list as the crate holds it. Its operations check that names are
unique; the type does not, because adapters may hand over any list. -/
@[ext] structure HeaderCollection where
  entries : List Entry := []

namespace HeaderCollection

def insertTyped (c : HeaderCollection) (name : HeaderName) (value : HeaderValue) :
    Except Error HeaderCollection :=
  if c.entries.any (fun e => e.1 == name) then .error .headerConflict
  else .ok ⟨c.entries ++ [(name, value)]⟩

def insert (c : HeaderCollection) (name value : String) : Except Error HeaderCollection := do
  let name ← HeaderName.new name
  let value ← HeaderValue.new value
  c.insertTyped name value

def fromPairs (headers : List (String × String)) : Except Error HeaderCollection :=
  headers.foldlM (fun c h => c.insert h.1 h.2) {}

def revalidate (c : HeaderCollection) : Except Error Unit := do
  let _ ← c.entries.foldlM
    (fun (validated : HeaderCollection) e => validated.insert e.1.asStr (HeaderValue.asStr e.2)) {}
  .ok ()

def fromTypedPairs (headers : List Entry) : Except Error HeaderCollection := do
  let c ← headers.foldlM (fun (c : HeaderCollection) e => c.insertTyped e.1 e.2) {}
  c.revalidate
  .ok c

def appendChecked (c other : HeaderCollection) : Except Error HeaderCollection := do
  c.revalidate
  other.revalidate
  if other.entries.any (fun candidate => c.entries.any (fun e => e.1 == candidate.1)) then
    .error .headerConflict
  else .ok ⟨c.entries ++ other.entries⟩

def intoPairs (c : HeaderCollection) : List Entry := c.entries

def get (c : HeaderCollection) (name : String) : Option HeaderValue :=
  (c.entries.find? (fun e => eqIgnoreAsciiCase e.1.asStr name)).map (·.2)

def Distinct (c : HeaderCollection) : Prop := UniqueKeys Entry.canonical c.entries

def items : HeaderCollection ≃ List Entry := ⟨entries, mk, fun _ => rfl, fun _ => rfl⟩

theorem insertTyped_ok_iff {c r : HeaderCollection} {name : HeaderName} {value : HeaderValue} :
    c.insertTyped name value = .ok r ↔
      (∀ e ∈ c.entries, e.canonical ≠ name.canonical) ∧
        r.entries = c.entries ++ [(name, value)] := by
  by_cases h : c.entries.any (fun e => e.1 == name) = true
  · have hfound : ¬ ∀ e ∈ c.entries, e.canonical ≠ name.canonical := HeaderName.any_beq_iff.mp h
    simp only [insertTyped, if_pos h, reduceCtorEq, hfound, false_and]
  · have hfresh : ∀ e ∈ c.entries, e.canonical ≠ name.canonical :=
      not_not.mp (mt HeaderName.any_beq_iff.mpr h)
    rw [insertTyped, if_neg h, Except.ok.injEq, HeaderCollection.ext_iff, and_iff_right hfresh]
    exact eq_comm

theorem insert_ok_iff {c r : HeaderCollection} {h : String × String} :
    c.insert h.1 h.2 = .ok r ↔
      ∃ e : Entry, e.texts = h ∧ (∀ d ∈ c.entries, d.canonical ≠ e.canonical) ∧
        r.entries = c.entries ++ [e] := by
  simp only [insert, bind_eq_ok_iff, HeaderName.new_ok_iff, HeaderValue.new_ok_iff,
    insertTyped_ok_iff]
  constructor
  · rintro ⟨name, hn, value, hv, hfresh, hr⟩
    exact ⟨(name, value), Prod.ext hn hv, hfresh, hr⟩
  · rintro ⟨⟨name, value⟩, rfl, hfresh, hr⟩
    exact ⟨name, rfl, value, rfl, hfresh, hr⟩

theorem insertTyped_error_iff {c : HeaderCollection} {name : HeaderName} {value : HeaderValue}
    {e : Error} : c.insertTyped name value = .error e ↔
      e = .headerConflict ∧ ∃ d ∈ c.entries, d.canonical = name.canonical := by
  have hany : c.entries.any (fun d => d.1 == name) = true ↔
      ∃ d ∈ c.entries, d.canonical = name.canonical := by
    simp only [List.any_eq_true, HeaderName.beq_iff]
    rfl
  rw [← hany, insertTyped]
  by_cases h : c.entries.any (fun d => d.1 == name) = true
  · simp [h, eq_comm]
  · simp [h]

/-- An insertion that fails names the reason: illegal text before a name that is taken. -/
theorem insert_error_iff {c : HeaderCollection} {name value : String} {e : Error} :
    c.insert name value = .error e ↔
      (e = .invalidHeader ∧ ¬ (isToken name = true ∧ isHeaderText value = true)) ∨
      (e = .headerConflict ∧ (isToken name = true ∧ isHeaderText value = true) ∧
        ∃ d ∈ c.entries, d.canonical = toAsciiLowercase name) := by
  by_cases hn : isToken name = true
  · by_cases hv : isHeaderText value = true
    · rw [insert, HeaderName.new, dif_pos hn, ok_bind, HeaderValue.new, dif_pos hv, ok_bind,
        insertTyped_error_iff]
      simp [hn, hv]
    · rw [insert, HeaderName.new, dif_pos hn, ok_bind, HeaderValue.new, dif_neg hv, error_bind,
        Except.error.injEq, eq_comm]
      simp [hv]
  · rw [insert, HeaderName.new, dif_neg hn, error_bind, Except.error.injEq, eq_comm]
    simp [hn]

theorem texts_injective : Function.Injective Entry.texts := by
  rintro ⟨a, v⟩ ⟨b, w⟩ h
  have hname : a.asStr = b.asStr := congrArg Prod.fst h
  have hvalue : v.1 = w.1 := congrArg Prod.snd h
  rw [HeaderName.asStr_injective hname, Subtype.ext hvalue]

theorem fromPairs_ok_iff {headers : List (String × String)} {c : HeaderCollection} :
    fromPairs headers = .ok c ↔ c.entries.map Entry.texts = headers ∧ c.Distinct := by
  have h := foldlM_insert_ok_iff items Entry.texts (fun _ _ _ => insert_ok_iff) headers {} c
    uniqueKeys_nil
  refine h.trans ⟨?_, fun hc => ⟨c.entries, hc.1, rfl, hc.2⟩⟩
  rintro ⟨es, rfl, hes, hunique⟩
  have hentries : c.entries = es := hes
  exact ⟨by rw [hentries], hunique⟩

/-- Among distinct names only an illegal text stops the loop. -/
theorem fromPairs_error {headers : List (String × String)} {e : Error}
    (hunique : UniqueKeys (fun h => toAsciiLowercase h.1) headers)
    (h : fromPairs headers = .error e) : e = .invalidHeader := by
  obtain ⟨before, b, after, c, rfl, hc, hb⟩ := exists_error_of_foldlM h
  obtain ⟨rfl, -⟩ | ⟨-, -, d, hd, hkey⟩ := insert_error_iff.mp hb
  · rfl
  · have htexts : c.entries.map Entry.texts = before := (fromPairs_ok_iff.mp hc).1
    have hmem : d.texts ∈ before := by
      rw [← htexts]
      exact List.mem_map_of_mem hd
    have hne := (uniqueKeys_append.mp hunique).2.2 d.texts hmem b List.mem_cons_self
    rw [Entry.canonical, d.1.canonical_eq] at hkey
    exact absurd hkey hne

theorem revalidate_ok_iff {c : HeaderCollection} {u : Unit} :
    c.revalidate = .ok u ↔ c.Distinct := by
  have hfold : c.entries.foldlM (fun (validated : HeaderCollection) e =>
      validated.insert e.1.asStr (HeaderValue.asStr e.2)) {} =
        fromPairs (c.entries.map Entry.texts) := by
    rw [fromPairs, List.foldlM_map]
    rfl
  simp only [revalidate, hfold, bind_eq_ok_iff, fromPairs_ok_iff, and_true]
  constructor
  · rintro ⟨d, htexts, hd⟩
    have hentries : d.entries = c.entries := texts_injective.list_map htexts
    unfold Distinct
    rwa [← hentries]
  · intro hc
    exact ⟨c, rfl, hc⟩

/-- Typed entries are legal, so that only a repeated name can fail. -/
theorem revalidate_error_iff {c : HeaderCollection} {e : Error} :
    c.revalidate = .error e ↔ e = .headerConflict ∧ ¬ c.Distinct := by
  apply eq_error_iff_of_unique
  · simp only [revalidate_ok_iff, exists_const]
  · intro e h
    simp only [revalidate, bind_eq_error_iff, reduceCtorEq, and_false, exists_false, or_false] at h
    obtain ⟨-, d, -, validated, -, -, h⟩ := exists_error_of_foldlM h
    obtain ⟨-, hillegal⟩ | ⟨rfl, -⟩ := insert_error_iff.mp h
    · exact absurd ⟨d.1.token, d.2.2⟩ hillegal
    · rfl

theorem fromTypedPairs_ok_iff {headers : List Entry} {c : HeaderCollection} :
    fromTypedPairs headers = .ok c ↔ c.entries = headers ∧ c.Distinct := by
  have hstep : ∀ (s : HeaderCollection) (e : Entry) (s' : HeaderCollection),
      s.insertTyped e.1 e.2 = .ok s' ↔ ∃ a : Entry, id a = e ∧
        (∀ d ∈ items s, d.canonical ≠ a.canonical) ∧ items s' = items s ++ [a] := by
    intro s e s'
    simp only [id_eq, exists_eq_left]
    exact insertTyped_ok_iff
  have h := fun c => foldlM_insert_ok_iff items id hstep headers {} c uniqueKeys_nil
  simp only [fromTypedPairs, bind_eq_ok_iff, revalidate_ok_iff, Except.ok.injEq, h, List.map_id]
  constructor
  · rintro ⟨d, ⟨es, rfl, hes, -⟩, -, hd, rfl⟩
    exact ⟨hes, hd⟩
  · rintro ⟨rfl, hc⟩
    exact ⟨c, ⟨_, rfl, rfl, hc⟩, (), hc, rfl⟩

theorem appendChecked_ok_iff {c other r : HeaderCollection} :
    c.appendChecked other = .ok r ↔ r.entries = c.entries ++ other.entries ∧ r.Distinct := by
  have hany : (other.entries.any fun x => c.entries.any fun e => e.1 == x.1) = true ↔
      ¬ ∀ a ∈ c.entries, ∀ b ∈ other.entries, a.canonical ≠ b.canonical := by
    simp only [List.any_eq_true, HeaderName.beq_iff, not_forall, not_not]
    constructor
    · rintro ⟨b, hb, a, ha, hab⟩
      exact ⟨a, ha, b, hb, hab⟩
    · rintro ⟨a, ha, b, hb, hab⟩
      exact ⟨b, hb, a, ha, hab⟩
  simp only [appendChecked, bind_eq_ok_iff, revalidate_ok_iff, exists_const]
  have hdistinct : r.entries = c.entries ++ other.entries → (r.Distinct ↔ c.Distinct ∧
      other.Distinct ∧ ∀ a ∈ c.entries, ∀ b ∈ other.entries, a.canonical ≠ b.canonical) := by
    intro hr
    unfold Distinct
    rw [hr]
    exact uniqueKeys_append
  split
  · next h =>
    simp only [reduceCtorEq, and_false, false_iff, not_and]
    intro hr hd
    exact hany.mp h ((hdistinct hr).mp hd).2.2
  · next h =>
    have hfresh := not_not.mp (fun hn => h (hany.mpr hn))
    rw [Except.ok.injEq, HeaderCollection.ext_iff]
    constructor
    · rintro ⟨hc, ho, hr⟩
      exact ⟨hr.symm, (hdistinct hr.symm).mpr ⟨hc, ho, hfresh⟩⟩
    · rintro ⟨hr, hd⟩
      obtain ⟨hc, ho, -⟩ := (hdistinct hr).mp hd
      exact ⟨hc, ho, hr.symm⟩

theorem appendChecked_error_iff {c other : HeaderCollection} {e : Error} :
    c.appendChecked other = .error e ↔ e = .headerConflict ∧
      ¬ UniqueKeys Entry.canonical (c.entries ++ other.entries) := by
  apply eq_error_iff_of_unique
  · simp only [appendChecked_ok_iff]
    constructor
    · rintro ⟨r, hr, hd⟩
      unfold Distinct at hd
      rwa [hr] at hd
    · intro hd
      exact ⟨⟨c.entries ++ other.entries⟩, rfl, hd⟩
  · intro e h
    simp only [appendChecked, bind_eq_error_iff, revalidate_error_iff] at h
    obtain ⟨rfl, -⟩ | ⟨-, -, ⟨rfl, -⟩ | ⟨-, -, h⟩⟩ := h
    · rfl
    · rfl
    · split at h
      · cases h
        rfl
      · cases h

theorem get_eq_some_of_mem {c : HeaderCollection} (hc : c.Distinct) {e : Entry}
    (he : e ∈ c.entries) {name : String} (hname : eqIgnoreAsciiCase e.1.asStr name = true) :
    c.get name = some e.2 := by
  have hkeys : (fun d : Entry => eqIgnoreAsciiCase d.1.asStr name) =
      fun d => d.canonical == toAsciiLowercase name := by
    funext d
    rw [Entry.canonical, d.1.canonical_eq]
    rfl
  have hkey : e.canonical = toAsciiLowercase name := by
    rw [Entry.canonical, e.1.canonical_eq]
    exact eqIgnoreAsciiCase_iff.mp hname
  rw [get, hkeys, find?_eq_some_of_mem hc he hkey]
  rfl

theorem get_eq_some_iff {c : HeaderCollection} (hc : c.Distinct) {name : String}
    {value : HeaderValue} : c.get name = some value ↔
      ∃ e ∈ c.entries, eqIgnoreAsciiCase e.1.asStr name = true ∧ e.2 = value := by
  constructor
  · intro h
    obtain ⟨e, he, hvalue⟩ := Option.map_eq_some_iff.mp h
    have hname := List.find?_some he
    exact ⟨e, List.mem_of_find?_eq_some he, hname, hvalue⟩
  · rintro ⟨e, he, hname, rfl⟩
    exact get_eq_some_of_mem hc he hname

theorem get_asStr (c : HeaderCollection) (name : HeaderName) :
    c.get name.asStr = (c.entries.find? (fun e => e.1 == name)).map (·.2) := by
  have hsame : (fun e : Entry => eqIgnoreAsciiCase e.1.asStr name.asStr) =
      fun e => e.1 == name := by
    funext e
    apply Bool.eq_iff_iff.mpr
    rw [HeaderName.beq_iff, eqIgnoreAsciiCase_iff, e.1.canonical_eq, name.canonical_eq]
    rfl
  rw [get, hsame]

end HeaderCollection

end EnvelopeLite.Header
