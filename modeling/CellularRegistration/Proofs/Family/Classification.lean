import CellularRegistration.Proofs.Family.Entry
import CellularRegistration.Proofs.Text.Trim
import Mathlib.Data.Nat.Digits.Defs

namespace CellularRegistration

namespace Text

/-- The number that a decimal digit stands for. -/
def digitValue (c : Char) : Nat :=
  c.toNat - '0'.toNat

/-- The number that some digits write: the last one counts ones, the one before it tens, and so
on. -/
def placeValue (digits : List Char) : Nat :=
  Nat.ofDigits 10 (digits.reverse.map digitValue)

/-- An integer in decimal notation: one or more ASCII digits after any number of zeros, with a sign
in front or without. -/
inductive Decimal : List Char → Int → Prop where
  | positive {sign digits : List Char} (hsign : sign = [] ∨ sign = ['+']) (zeros : Nat)
      (hne : digits ≠ []) (hdigits : ∀ c ∈ digits, c.isDigit = true) :
      Decimal (sign ++ List.replicate zeros '0' ++ digits) (placeValue digits)
  | negative {digits : List Char} (zeros : Nat) (hne : digits ≠ [])
      (hdigits : ∀ c ∈ digits, c.isDigit = true) :
      Decimal ('-' :: List.replicate zeros '0' ++ digits) (-(placeValue digits : Int))

/-- A decimal integer of 64 bits. -/
structure Decimal64 (s : List Char) (n : Int) : Prop where
  decimal : Decimal s n
  min_le : -2 ^ 63 ≤ n
  le_max : n ≤ 2 ^ 63 - 1

variable {s digits : List Char} {n : Int}

theorem digitsValue_eq_placeValue (digits : List Char) : digitsValue digits = placeValue digits := by
  -- Reading goes from the first digit to the last, so the digit that comes off is the last one.
  induction digits using List.reverseRecOn with
  | nil => rfl
  | append_singleton digits c ih =>
    have hstep : digitsValue (digits ++ [c]) = 10 * digitsValue digits + digitValue c := by
      rw [digitsValue, List.foldl_append]
      rfl
    have hplaces : placeValue (digits ++ [c]) = digitValue c + 10 * placeValue digits := by
      rw [placeValue, List.reverse_append, List.reverse_singleton, List.singleton_append,
        List.map_cons, Nat.ofDigits_cons]
      rfl
    rw [hstep, hplaces, ih, Nat.add_comm]

/-- Zeros in front take places that count nothing. -/
theorem placeValue_zeros_append (zeros : Nat) (digits : List Char) :
    placeValue (List.replicate zeros '0' ++ digits) = placeValue digits := by
  have hzero : digitValue '0' = 0 := rfl
  rw [placeValue, List.reverse_append, List.map_append, List.reverse_replicate, List.map_replicate,
    hzero, Nat.ofDigits_append_replicate_zero, placeValue]

theorem isDigit_zeros_append (zeros : Nat) (hdigits : ∀ c ∈ digits, c.isDigit = true) :
    ∀ c ∈ List.replicate zeros '0' ++ digits, c.isDigit = true := by
  intro c hc
  obtain hc | hc := List.mem_append.1 hc
  · rw [List.eq_of_mem_replicate hc]
    rfl
  · exact hdigits c hc

theorem decimal_iff_writes : Decimal s n ↔ Writes s n := by
  constructor
  · intro h
    cases h with
    | @positive sign digits hsign zeros hne hdigits =>
      have hwhole : List.replicate zeros '0' ++ digits ≠ [] := by simp [hne]
      have hall := isDigit_zeros_append zeros hdigits
      rw [← placeValue_zeros_append zeros, ← digitsValue_eq_placeValue, List.append_assoc]
      obtain rfl | rfl := hsign
      · exact .plain hwhole hall
      · exact .plus hwhole hall
    | @negative digits zeros hne hdigits =>
      have hwhole : List.replicate zeros '0' ++ digits ≠ [] := by simp [hne]
      rw [← placeValue_zeros_append zeros, ← digitsValue_eq_placeValue, List.cons_append]
      exact .minus hwhole (isDigit_zeros_append zeros hdigits)
  · intro h
    cases h with
    | plain hne hdigits =>
      rw [digitsValue_eq_placeValue]
      exact .positive (.inl rfl) 0 hne hdigits
    | plus hne hdigits =>
      rw [digitsValue_eq_placeValue]
      exact .positive (.inr rfl) 0 hne hdigits
    | minus hne hdigits =>
      rw [digitsValue_eq_placeValue]
      exact .negative 0 hne hdigits

end Text

theorem RadioTechnology.exists_code_eq_iff (n : Int) :
    (∃ technology : RadioTechnology, (technology.code : Int) = n) ↔ 0 ≤ n ∧ n ≤ 20 := by
  constructor
  · rintro ⟨technology, rfl⟩
    cases technology <;> decide
  · rintro ⟨hnonneg, hle⟩
    have hposition : ∀ i : Fin all.length, (all.get i).code = i := by decide
    have hlt : n.toNat < all.length := by
      have hlength : all.length = 21 := rfl
      omega
    refine ⟨all.get ⟨n.toNat, hlt⟩, ?_⟩
    rw [hposition]
    exact Int.toNat_of_nonneg hnonneg

namespace Family

/-- What an entry is answered with while some technologies are claimed, if `rest` is left of it
without white space. -/
structure Classified (claimed : List RadioTechnology) (rest : List Char)
    (answer : Except EntryFault RadioTechnology) : Prop where
  unparseable_iff : answer = .error .unparseable ↔ ∀ n, ¬Text.Decimal64 rest n
  unknownTechnology_iff : answer = .error .unknownTechnology ↔
    ∃ n, Text.Decimal64 rest n ∧ (n < 0 ∨ 20 < n)
  duplicate_iff : answer = .error .duplicate ↔
    ∃ technology : RadioTechnology, Text.Decimal64 rest technology.code ∧ technology ∈ claimed
  ok_iff : ∀ technology : RadioTechnology, answer = .ok technology ↔
    Text.Decimal64 rest technology.code ∧ technology ∉ claimed

variable {claimed : List RadioTechnology} {entry : List Char}

theorem decimal64_trim_iff {n : Int} : Text.Decimal64 (Text.trim entry) n ↔ Gives entry n := by
  constructor
  · intro h
    refine ⟨Text.decimal_iff_writes.1 h.decimal, ?_, ?_⟩
    · have hmin := h.min_le
      omega
    · have hmax := h.le_max
      omega
  · intro h
    refine ⟨Text.decimal_iff_writes.2 h.writes, ?_, ?_⟩
    · have hmin := h.min_le
      omega
    · have hmax := h.le_max
      omega

theorem not_code_iff (n : Int) :
    (∀ technology : RadioTechnology, (technology.code : Int) ≠ n) ↔ n < 0 ∨ 20 < n := by
  rw [← not_exists, RadioTechnology.exists_code_eq_iff]
  omega

theorem classified_trim (claimed : List RadioTechnology) (entry : List Char) :
    Classified claimed (Text.trim entry) (readEntry claimed entry) := by
  constructor
  · simp only [decimal64_trim_iff, readEntry_eq_error_iff]
    exact ⟨fun | .unparseable h => h, .unparseable⟩
  · simp only [decimal64_trim_iff, readEntry_eq_error_iff]
    constructor
    · rintro (_ | ⟨hgives, hunknown⟩ | _)
      exact ⟨_, hgives, (not_code_iff _).1 hunknown⟩
    · rintro ⟨n, hgives, hrange⟩
      exact .unknownTechnology hgives ((not_code_iff n).2 hrange)
  · simp only [decimal64_trim_iff, readEntry_eq_error_iff]
    constructor
    · rintro (_ | _ | ⟨hgives, hclaimed⟩)
      exact ⟨_, hgives, hclaimed⟩
    · rintro ⟨technology, hgives, hclaimed⟩
      exact .duplicate hgives hclaimed
  · intro technology
    rw [decimal64_trim_iff, readEntry_eq_ok_iff]

/-- Every entry leaves one rest without white space, and by that rest it is either refused, for one
of three reasons, or names the technology with the code that it writes. -/
theorem readEntry_classified (claimed : List RadioTechnology) (entry : List Char) :
    ∃ rest, (∀ other, Text.Trims entry other ↔ other = rest) ∧
      Classified claimed rest (readEntry claimed entry) :=
  ⟨Text.trim entry, fun _ => Text.trims_iff, classified_trim claimed entry⟩

/-- The least integer of 64 bits is none of a technology, and one less cannot be read. Neither is
taken for a code by its last bits, nor is 256 more than a code. -/
example : (["-9223372036854775808", "-9223372036854775809", "270", "\u2003+00000000000000000000014"].map
    fun entry => readEntry [] entry.toList) =
      [.error .unknownTechnology, .error .unparseable, .error .unknownTechnology, .ok .lte] := by
  decide

end Family

end CellularRegistration
