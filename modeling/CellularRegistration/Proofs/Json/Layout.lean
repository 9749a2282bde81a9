import CellularRegistration.Json.Shape

namespace CellularRegistration

/-- The names of the fields, in order. -/
def Fields.names {α : Type} : Fields α → List String
  | .empty => []
  | .field name _ _ rest => name :: rest.names
  | .assembled fields _ => fields.names

/-- The names of the variants, in order. -/
def Variants.names {α : Type} : Variants α → List String
  | .empty => []
  | .variant name _ rest => name :: rest.names
  | .assembled variants _ => variants.names

/-- The names of the cases, in order. -/
def Cases.names {α : Type} : Cases α → List String
  | .empty => []
  | .bare name rest => name :: rest.names
  | .data name _ rest => name :: rest.names
  | .assembled cases _ => cases.names

/-- Whether a value may be written as null. -/
def Shape.allowsNull {α : Type} : Shape α → Bool
  | .nullable _ => true
  | .assembled shape _ => shape.allowsNull
  | _ => false

mutual

/-- Whether no two names in one place of a shape are the same, and null stands for one value
only. -/
def Shape.isUnambiguous {α : Type} : Shape α → Bool
  | .flag | .int _ | .text | .keyword _ => true
  | .nullable item => !item.allowsNull && item.isUnambiguous
  | .list item => item.isUnambiguous
  | .struct fields => decide fields.names.Nodup && fields.isUnambiguous
  | .merged own inner =>
    decide (own.names ++ inner.names).Nodup && (own.isUnambiguous && inner.isUnambiguous)
  | .tagged tag variants => decide variants.names.Nodup && variants.isUnambiguous tag
  | .union cases => decide cases.names.Nodup && cases.isUnambiguous
  | .assembled shape _ => shape.isUnambiguous

/-- Whether the shapes of the fields are unambiguous. -/
def Fields.isUnambiguous {α : Type} : Fields α → Bool
  | .empty => true
  | .field _ shape _ rest => shape.isUnambiguous && rest.isUnambiguous
  | .assembled fields _ => fields.isUnambiguous

/-- Whether the fields of each variant are unambiguous and distinct from the tag. -/
def Variants.isUnambiguous {α : Type} : Variants α → String → Bool
  | .empty, _ => true
  | .variant _ fields rest, tag =>
    decide (tag :: fields.names).Nodup && (fields.isUnambiguous && rest.isUnambiguous tag)
  | .assembled variants _, tag => variants.isUnambiguous tag

/-- Whether the data of each case are unambiguous. -/
def Cases.isUnambiguous {α : Type} : Cases α → Bool
  | .empty => true
  | .bare _ rest => rest.isUnambiguous
  | .data _ fields rest =>
    decide fields.names.Nodup && (fields.isUnambiguous && rest.isUnambiguous)
  | .assembled cases _ => cases.isUnambiguous

end

/-- Which structures stand as arrays, by the names that lead to them. -/
def Layout : Type :=
  List String → Bool

namespace Layout

/-- Every structure stands as an object. -/
def keyed : Layout := fun _ => false

/-- The layout of what stands under a name. -/
def under (layout : Layout) (name : String) : Layout :=
  fun path => layout (name :: path)

/-- A structure with these members, as an object or as the array of their values. -/
def arrange (layout : Layout) (members : List (String × Json)) : Json :=
  if layout [] then .arr (members.map Prod.snd) else .obj members

end Layout

mutual

/-- The JSON of a value in some layout. -/
def Shape.writeIn {α : Type} : Shape α → Layout → α → Json
  | .flag, _, b => .bool b
  | .int word, _, a => .int (word.toInt a)
  | .text, _, s => .str s
  | .keyword spelling, _, a => .str (spelling.name a)
  | .nullable _, _, none => .null
  | .nullable item, layout, some a => item.writeIn layout a
  | .list item, layout, as => .arr (as.map fun a => item.writeIn layout a)
  | .struct fields, layout, a => layout.arrange (fields.writeIn layout a)
  | .merged own inner, layout, (a, b) => .obj (own.writeIn layout a ++ inner.writeIn layout b)
  | .tagged tag variants, layout, a =>
    let (name, members) := variants.writeIn layout a
    layout.arrange ((tag, .str name) :: members)
  | .union cases, layout, a => cases.writeIn layout a
  | .assembled shape assembly, layout, b => shape.writeIn layout (assembly.view b)

/-- The members of a structure, each in the layout of what stands under its name. -/
def Fields.writeIn {α : Type} : Fields α → Layout → α → List (String × Json)
  | .empty, _, () => []
  | .field name shape _ rest, layout, (a, b) =>
    (name, shape.writeIn (layout.under name) a) :: rest.writeIn layout b
  | .assembled fields assembly, layout, b => fields.writeIn layout (assembly.view b)

/-- The name of a variant, and its members. -/
def Variants.writeIn {α : Type} : Variants α → Layout → α → String × List (String × Json)
  | .empty, _, a => nomatch a
  | .variant name fields _, layout, .inl a => (name, fields.writeIn layout a)
  | .variant _ _ rest, layout, .inr b => rest.writeIn layout b
  | .assembled variants assembly, layout, b => variants.writeIn layout (assembly.view b)

/-- The JSON of a case. -/
def Cases.writeIn {α : Type} : Cases α → Layout → α → Json
  | .empty, _, a => nomatch a
  | .bare name _, _, .inl () => .str name
  | .bare _ rest, layout, .inr b => rest.writeIn layout b
  | .data name fields _, layout, .inl a =>
    .obj [(name, (layout.under name).arrange (fields.writeIn (layout.under name) a))]
  | .data _ _ rest, layout, .inr b => rest.writeIn layout b
  | .assembled cases assembly, layout, b => cases.writeIn layout (assembly.view b)

end

mutual

/-- Where every structure stands as an object, a value is written as usual. -/
theorem Shape.writeIn_keyed {α : Type} : (shape : Shape α) → (a : α) →
    shape.writeIn .keyed a = shape.write a
  | .flag, _ | .int _, _ | .text, _ | .keyword _, _ => by simp only [Shape.writeIn, Shape.write]
  | .nullable item, none => by simp only [Shape.writeIn, Shape.write]
  | .nullable item, some a => by simp only [Shape.writeIn, Shape.write, item.writeIn_keyed a]
  | .list item, as => by
    have hitem : (fun a => item.writeIn .keyed a) = item.write := funext item.writeIn_keyed
    simp only [Shape.writeIn, Shape.write, hitem]
  | .struct fields, a => by
    simp only [Shape.writeIn, Shape.write, fields.writeIn_keyed a]
    rfl
  | .merged own inner, (a, b) => by
    simp only [Shape.writeIn, Shape.write, own.writeIn_keyed a, inner.writeIn_keyed b]
  | .tagged tag variants, a => by
    simp only [Shape.writeIn, Shape.write, variants.writeIn_keyed a]
    rfl
  | .union cases, a => by simp only [Shape.writeIn, Shape.write, cases.writeIn_keyed a]
  | .assembled shape assembly, b => by simp only [Shape.writeIn, Shape.write, shape.writeIn_keyed]

theorem Fields.writeIn_keyed {α : Type} : (fields : Fields α) → (a : α) →
    fields.writeIn .keyed a = fields.write a
  | .empty, () => by simp only [Fields.writeIn, Fields.write]
  | .field name shape _ rest, (a, b) => by
    have hunder : Layout.keyed.under name = .keyed := rfl
    simp only [Fields.writeIn, Fields.write, hunder, shape.writeIn_keyed a, rest.writeIn_keyed b]
  | .assembled fields assembly, b => by simp only [Fields.writeIn, Fields.write, fields.writeIn_keyed]

theorem Variants.writeIn_keyed {α : Type} : (variants : Variants α) → (a : α) →
    variants.writeIn .keyed a = variants.write a
  | .empty, a => nomatch a
  | .variant name fields _, .inl a => by
    simp only [Variants.writeIn, Variants.write, fields.writeIn_keyed a]
  | .variant _ _ rest, .inr b => by simp only [Variants.writeIn, Variants.write, rest.writeIn_keyed b]
  | .assembled variants assembly, b => by
    simp only [Variants.writeIn, Variants.write, variants.writeIn_keyed]

theorem Cases.writeIn_keyed {α : Type} : (cases : Cases α) → (a : α) →
    cases.writeIn .keyed a = cases.write a
  | .empty, a => nomatch a
  | .bare name _, .inl () => by simp only [Cases.writeIn, Cases.write]
  | .bare _ rest, .inr b => by simp only [Cases.writeIn, Cases.write, rest.writeIn_keyed b]
  | .data name fields _, .inl a => by
    have hunder : Layout.keyed.under name = .keyed := rfl
    simp only [Cases.writeIn, Cases.write, hunder, fields.writeIn_keyed a]
    rfl
  | .data _ _ rest, .inr b => by simp only [Cases.writeIn, Cases.write, rest.writeIn_keyed b]
  | .assembled cases assembly, b => by simp only [Cases.writeIn, Cases.write, cases.writeIn_keyed]

end

theorem Layout.arrange_ne_null (layout : Layout) (members : List (String × Json)) :
    layout.arrange members ≠ .null := by
  unfold arrange
  split <;> simp

theorem Cases.writeIn_ne_null {α : Type} : (cases : Cases α) → (layout : Layout) → (a : α) →
    cases.writeIn layout a ≠ .null
  | .empty, _, a => nomatch a
  | .bare name _, _, .inl () => by simp [Cases.writeIn]
  | .bare _ rest, layout, .inr b => by simpa only [Cases.writeIn] using rest.writeIn_ne_null layout b
  | .data name fields _, layout, .inl a => by simp [Cases.writeIn]
  | .data _ _ rest, layout, .inr b => by
    simpa only [Cases.writeIn] using rest.writeIn_ne_null layout b
  | .assembled cases assembly, layout, b => by
    simpa only [Cases.writeIn] using cases.writeIn_ne_null layout (assembly.view b)

theorem Shape.writeIn_ne_null {α : Type} : (shape : Shape α) → shape.allowsNull = false →
    (layout : Layout) → (a : α) → shape.writeIn layout a ≠ .null
  | .flag, _, _, _ | .int _, _, _, _ | .text, _, _, _ | .keyword _, _, _, _ | .list _, _, _, _
  | .merged _ _, _, _, _ => by simp [Shape.writeIn]
  | .nullable _, hnull, _, _ => by simp [allowsNull] at hnull
  | .struct _, _, layout, _ | .tagged _ _, _, layout, _ => by
    simpa only [Shape.writeIn] using layout.arrange_ne_null _
  | .union cases, _, layout, a => by simpa only [Shape.writeIn] using cases.writeIn_ne_null layout a
  | .assembled shape assembly, hnull, layout, b => by
    simp only [allowsNull] at hnull
    simpa only [Shape.writeIn] using shape.writeIn_ne_null hnull layout (assembly.view b)

end CellularRegistration
