import Mathlib.Data.List.Basic
import Mathlib.Algebra.Order.Ring.Nat
import Mathlib.Tactic.Ring

namespace EnvelopeLite.ByteFields

abbrev Bytes := List UInt8

/-- A byte array whose length is part of its type, such as `[u8; 16]`. -/
abbrev FixedBytes (n : Nat) := {b : Bytes // b.length = n}

/-- The `k` low-order base-256 digits of a number, most significant first. -/
def beBytes : Nat → Nat → Bytes
  | 0, _ => []
  | k + 1, n => beBytes k (n / 256) ++ [UInt8.ofNat (n % 256)]

def ofBe (b : Bytes) : Nat := b.foldl (fun acc x => 256 * acc + x.toNat) 0

@[simp] theorem length_beBytes (k n : Nat) : (beBytes k n).length = k := by
  induction k generalizing n with
  | zero => rfl
  | succ k ih => simp [beBytes, ih]

theorem ofBe_append_singleton (b : Bytes) (x : UInt8) :
    ofBe (b ++ [x]) = 256 * ofBe b + x.toNat := by
  simp [ofBe]

theorem ofBe_beBytes (k n : Nat) (h : n < 256 ^ k) : ofBe (beBytes k n) = n := by
  induction k generalizing n with
  | zero =>
    have hn : n = 0 := by simpa using h
    simp [beBytes, ofBe, hn]
  | succ k ih =>
    have hd : n / 256 < 256 ^ k := by
      rw [pow_succ] at h
      exact Nat.div_lt_of_lt_mul (by rwa [mul_comm] at h)
    have hx : (UInt8.ofNat (n % 256)).toNat = n % 256 := by
      simp [UInt8.toNat_ofNat']
    rw [beBytes, ofBe_append_singleton, ih _ hd, hx]
    exact Nat.div_add_mod n 256

theorem beBytes_inj {k n m : Nat} (hn : n < 256 ^ k) (hm : m < 256 ^ k)
    (h : beBytes k n = beBytes k m) : n = m := by
  have h' := congrArg ofBe h
  rwa [ofBe_beBytes k n hn, ofBe_beBytes k m hm] at h'

def field (k : Nat) (v : Bytes) : Bytes := beBytes k v.length ++ v

def fields (k : Nat) (vs : List Bytes) : Bytes := vs.flatMap (field k)

@[simp] theorem fields_nil (k : Nat) : fields k [] = [] := rfl

@[simp] theorem fields_cons (k : Nat) (v : Bytes) (vs : List Bytes) :
    fields k (v :: vs) = field k v ++ fields k vs := by
  simp [fields]

/-- The length prefix says where a field ends, whatever bytes come after it. -/
theorem field_append_inj {k : Nat} {v v' r r' : Bytes} (hv : v.length < 256 ^ k)
    (hv' : v'.length < 256 ^ k) (h : field k v ++ r = field k v' ++ r') : v = v' ∧ r = r' := by
  rw [field, field, List.append_assoc, List.append_assoc] at h
  obtain ⟨hp, ht⟩ := List.append_inj h (by simp)
  exact List.append_inj ht (beBytes_inj hv hv' hp)

/-- A sequence of length-prefixed fields can be read back field by field, so
equal encodings of equally many fields come from equal fields. -/
theorem fields_append_inj {k : Nat} {vs vs' : List Bytes} {r r' : Bytes}
    (hlen : vs.length = vs'.length) (hv : ∀ v ∈ vs, v.length < 256 ^ k)
    (hv' : ∀ v ∈ vs', v.length < 256 ^ k) (h : fields k vs ++ r = fields k vs' ++ r') :
    vs = vs' ∧ r = r' := by
  induction vs generalizing vs' with
  | nil =>
    have hnil : vs' = [] := List.length_eq_zero_iff.mp hlen.symm
    subst vs'
    exact ⟨rfl, by simpa using h⟩
  | cons v vs ih =>
    cases vs' with
    | nil => simp at hlen
    | cons v' vs' =>
      rw [fields_cons, fields_cons, List.append_assoc, List.append_assoc] at h
      obtain ⟨he, ht⟩ := field_append_inj (hv v (by simp)) (hv' v' (by simp)) h
      obtain ⟨hes, hr⟩ := ih (by simpa using hlen) (fun u hu => hv u (by simp [hu]))
        (fun u hu => hv' u (by simp [hu])) ht
      exact ⟨by rw [he, hes], hr⟩

theorem fields_inj {k : Nat} {vs vs' : List Bytes} (hlen : vs.length = vs'.length)
    (hv : ∀ v ∈ vs, v.length < 256 ^ k) (hv' : ∀ v ∈ vs', v.length < 256 ^ k)
    (h : fields k vs = fields k vs') : vs = vs' := by
  have ha : fields k vs ++ [] = fields k vs' ++ [] := by rw [h]
  exact (fields_append_inj hlen hv hv' ha).1

end EnvelopeLite.ByteFields
