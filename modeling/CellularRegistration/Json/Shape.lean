import CellularRegistration.Json.Value
import CellularRegistration.Spelling
import CellularRegistration.Word

namespace CellularRegistration

/-- The same data in two forms: as the nested pairs that fields form, or the nested sums that
variants and cases form, and as a whole of the type proper. -/
structure Assembly (Parts Whole : Type) where
  /-- The whole made of these parts. -/
  build : Parts → Whole
  /-- The parts of a whole. -/
  view : Whole → Parts
  build_view : ∀ whole, build (view whole) = whole := by intro _; rfl
  view_build : ∀ parts, view (build parts) = parts := by intro _; rfl

mutual

/-- How the values of a type stand in JSON. -/
inductive Shape : Type → Type 1 where
  | flag : Shape Bool
  | int {α : Type} (word : Word α) : Shape α
  | text : Shape String
  /-- A finite type: the value's name. -/
  | keyword {α : Type} (spelling : Spelling α) : Shape α
  /-- A value or null. -/
  | nullable {α : Type} (item : Shape α) : Shape (Option α)
  | list {α : Type} (item : Shape α) : Shape (List α)
  /-- An object with these members, or the array of their values. -/
  | struct {α : Type} (fields : Fields α) : Shape α
  /-- An object with members of its own, among which stand the members of an inner structure. -/
  | merged {α β : Type} (own : Fields α) (inner : Fields β) : Shape (α × β)
  /-- A sum: the fields of a variant, with a tag among them that names the variant. -/
  | tagged {α : Type} (tag : String) (variants : Variants α) : Shape α
  /-- A sum: the name of a case, with the data of the case, if it has any. -/
  | union {α : Type} (cases : Cases α) : Shape α
  | assembled {α β : Type} (shape : Shape α) (assembly : Assembly α β) : Shape β

/-- The members of an object, in order, each with the value that it has by default. -/
inductive Fields : Type → Type 1 where
  | empty : Fields Unit
  | field {α β : Type} (name : String) (shape : Shape α) (default : Option α) (rest : Fields β) :
      Fields (α × β)
  | assembled {α β : Type} (fields : Fields α) (assembly : Assembly α β) : Fields β

/-- The variants of a sum, in order, each named by its tag. -/
inductive Variants : Type → Type 1 where
  | empty : Variants Empty
  | variant {α β : Type} (name : String) (fields : Fields α) (rest : Variants β) :
      Variants (α ⊕ β)
  | assembled {α β : Type} (variants : Variants α) (assembly : Assembly α β) : Variants β

/-- The cases of a sum, in order: a bare name, or a name with the members of a structure. -/
inductive Cases : Type → Type 1 where
  | empty : Cases Empty
  | bare {β : Type} (name : String) (rest : Cases β) : Cases (Unit ⊕ β)
  | data {α β : Type} (name : String) (fields : Fields α) (rest : Cases β) : Cases (α ⊕ β)
  | assembled {α β : Type} (cases : Cases α) (assembly : Assembly α β) : Cases β

end

namespace Fields

/-- A member that has to be given. -/
abbrev required {α β : Type} (name : String) (shape : Shape α) (rest : Fields β) : Fields (α × β) :=
  field name shape none rest

/-- A member with a value by default. -/
abbrev defaulted {α β : Type} (name : String) (shape : Shape α) (default : α) (rest : Fields β) :
    Fields (α × β) :=
  field name shape (some default) rest

end Fields

mutual

/-- The JSON of a value. -/
def Shape.write {α : Type} : Shape α → α → Json
  | .flag, b => .bool b
  | .int word, a => .int (word.toInt a)
  | .text, s => .str s
  | .keyword spelling, a => .str (spelling.name a)
  | .nullable _, none => .null
  | .nullable item, some a => item.write a
  | .list item, as => .arr (as.map item.write)
  | .struct fields, a => .obj (fields.write a)
  | .merged own inner, (a, b) => .obj (own.write a ++ inner.write b)
  | .tagged tag variants, a =>
    let (name, members) := variants.write a
    .obj ((tag, .str name) :: members)
  | .union cases, a => cases.write a
  | .assembled shape assembly, b => shape.write (assembly.view b)

/-- The members of a structure. -/
def Fields.write {α : Type} : Fields α → α → List (String × Json)
  | .empty, () => []
  | .field name shape _ rest, (a, b) => (name, shape.write a) :: rest.write b
  | .assembled fields assembly, b => fields.write (assembly.view b)

/-- The name of a variant, and its members. -/
def Variants.write {α : Type} : Variants α → α → String × List (String × Json)
  | .empty, a => nomatch a
  | .variant name fields _, .inl a => (name, fields.write a)
  | .variant _ _ rest, .inr b => rest.write b
  | .assembled variants assembly, b => variants.write (assembly.view b)

/-- The JSON of a case. -/
def Cases.write {α : Type} : Cases α → α → Json
  | .empty, a => nomatch a
  | .bare name _, .inl () => .str name
  | .bare _ rest, .inr b => rest.write b
  | .data name fields _, .inl a => .obj [(name, .obj (fields.write a))]
  | .data _ _ rest, .inr b => rest.write b
  | .assembled cases assembly, b => cases.write (assembly.view b)

end

end CellularRegistration
