namespace CellularRegistration

/-- A fixed-width integer type, seen as a range of integers. Nothing wraps: an integer out of range
has no word. -/
structure Word (α : Type) where
  /-- The value of a word. -/
  toInt : α → Int
  /-- The word with this value, if there is one. -/
  ofInt? : Int → Option α
  /-- A word is found exactly for its own value. -/
  ofInt?_eq_some_iff : ∀ (n : Int) (a : α), ofInt? n = some a ↔ toInt a = n

namespace Word

/-- Signed integers of 32 bits. -/
def int32 : Word Int32 where
  toInt := Int32.toInt
  ofInt? n :=
    if Int32.minValue.toInt ≤ n ∧ n ≤ Int32.maxValue.toInt then some (Int32.ofInt n) else none
  ofInt?_eq_some_iff n a := by
    have hmax : Int32.maxValue.toInt = 2 ^ 31 - 1 := rfl
    constructor
    · intro h
      split at h
      next hrange =>
        cases h
        exact Int32.toInt_ofInt_of_le hrange.1 (by omega)
      next => cases h
    · intro h
      subst h
      rw [if_pos ⟨a.minValue_le_toInt, a.toInt_le⟩, Int32.ofInt_toInt]

/-- Signed integers of 64 bits. -/
def int64 : Word Int64 where
  toInt := Int64.toInt
  ofInt? n :=
    if Int64.minValue.toInt ≤ n ∧ n ≤ Int64.maxValue.toInt then some (Int64.ofInt n) else none
  ofInt?_eq_some_iff n a := by
    have hmax : Int64.maxValue.toInt = 2 ^ 63 - 1 := rfl
    constructor
    · intro h
      split at h
      next hrange =>
        cases h
        exact Int64.toInt_ofInt_of_le hrange.1 (by omega)
      next => cases h
    · intro h
      subst h
      rw [if_pos ⟨a.minValue_le_toInt, a.toInt_le⟩, Int64.ofInt_toInt]

/-- Unsigned integers of 8 bits. -/
def uint8 : Word UInt8 where
  toInt a := a.toNat
  ofInt? n := if 0 ≤ n ∧ n < UInt8.size then some (UInt8.ofNat n.toNat) else none
  ofInt?_eq_some_iff n a := by
    have ha := a.toNat_lt_size
    constructor
    · intro h
      split at h
      next hrange =>
        cases h
        rw [UInt8.toNat_ofNat_of_lt' (by omega)]
        omega
      next => cases h
    · intro h
      subst h
      rw [if_pos (by omega)]
      simp

/-- Unsigned integers of 32 bits. -/
def uint32 : Word UInt32 where
  toInt a := a.toNat
  ofInt? n := if 0 ≤ n ∧ n < UInt32.size then some (UInt32.ofNat n.toNat) else none
  ofInt?_eq_some_iff n a := by
    have ha := a.toNat_lt_size
    constructor
    · intro h
      split at h
      next hrange =>
        cases h
        rw [UInt32.toNat_ofNat_of_lt' (by omega)]
        omega
      next => cases h
    · intro h
      subst h
      rw [if_pos (by omega)]
      simp

end Word

end CellularRegistration
