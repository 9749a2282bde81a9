import CellularRegistration.Json.Decoding
import CellularRegistration.Json.Draft

namespace CellularRegistration

mutual

/-- The value of the part of a draft that a shape looks at. Members that a structure does not know
need not stand for values; what is gathered before it is looked at has to as a whole. -/
def Shape.select {α : Type} : Shape α → Draft → Option Json
  | .nullable item, draft => item.select draft
  | .list item, .arr drafts => (drafts.mapM fun draft => item.select draft).map .arr
  | .struct fields, .obj members => (fields.selectKeyed members).map .obj
  | .struct fields, .arr drafts => (fields.selectPositional drafts).map .arr
  | .assembled shape _, draft => shape.select draft
  | _, draft => draft.value?

/-- The members of an object that a structure knows. -/
def Fields.selectKeyed {α : Type} : Fields α → List (String × Draft) → Option (List (String × Json))
  | .empty, _ => some []
  | .field name shape _ rest, members => do
    let own ← (members.filter fun (key, _) => key == name).mapM fun (key, draft) =>
      (shape.select draft).map fun j => (key, j)
    return own ++ (← rest.selectKeyed members)
  | .assembled fields _, members => fields.selectKeyed members

/-- The items of an array, one for each field. -/
def Fields.selectPositional {α : Type} : Fields α → List Draft → Option (List Json)
  | .empty, drafts => drafts.mapM Draft.value?
  | .field _ _ _ _, [] => some []
  | .field _ shape _ rest, draft :: drafts => do
    return (← shape.select draft) :: (← rest.selectPositional drafts)
  | .assembled fields _, drafts => fields.selectPositional drafts

end

/-- The value that a JSON text stands for. -/
def Shape.decodeText {α : Type} (shape : Shape α) (text : String) : Option α := do
  let draft ← Draft.ofText? text
  let j ← shape.select draft
  shape.decode j

end CellularRegistration
