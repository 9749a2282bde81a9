namespace CellularRegistration

/-- One name for each value of a finite type. -/
structure Spelling (α : Type) where
  /-- The values, in the order in which the type lists them. -/
  all : List α
  /-- The name of a value. -/
  name : α → String
  /-- No value is left out. -/
  mem_all : ∀ a, a ∈ all
  /-- No two values share a name. -/
  eq_of_name_eq : ∀ a b, name a = name b → a = b

namespace Spelling

variable {α : Type}

/-- The value with this name, if there is one. -/
def find? (s : Spelling α) (text : String) : Option α :=
  s.all.find? fun a => s.name a == text

/-- A name is found exactly for the value that bears it. -/
theorem find?_eq_some_iff (s : Spelling α) (text : String) (a : α) :
    s.find? text = some a ↔ s.name a = text := by
  constructor
  · intro h
    simpa using List.find?_some h
  · intro h
    cases hfound : s.find? text with
    | none =>
      have := List.find?_eq_none.1 hfound a (s.mem_all a)
      simp [h] at this
    | some b =>
      have hb : s.name b = text := by simpa using List.find?_some hfound
      rw [s.eq_of_name_eq b a (hb.trans h.symm)]

end Spelling

end CellularRegistration
