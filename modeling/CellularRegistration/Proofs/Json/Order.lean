import CellularRegistration.Proofs.Json.KnownFields

namespace CellularRegistration

namespace Json

/-- The second value is the first one with the members of some objects in another order. -/
inductive Reordered : Json → Json → Prop where
  | refl (j : Json) : Reordered j j
  | trans {j k l : Json} (first : Reordered j k) (second : Reordered k l) : Reordered j l
  | object {members members' : List (String × Json)} (h : members.Perm members') :
      Reordered (.obj members) (.obj members')
  | item {j j' : Json} (before after : List Json) (h : Reordered j j') :
      Reordered (.arr (before ++ j :: after)) (.arr (before ++ j' :: after))
  | member {j j' : Json} (name : String) (before after : List (String × Json))
      (h : Reordered j j') :
      Reordered (.obj (before ++ (name, j) :: after)) (.obj (before ++ (name, j') :: after))

/-- Two values mean the same wherever they stand: as a value of any shape, as a tag, and as the data
of a bare name. -/
structure Alike (j j' : Json) : Prop where
  read_eq : ∀ {α : Type} (shape : Shape α) (reading : Reading),
    shape.read reading j = shape.read reading j'
  tag_eq : ∀ reading, Tag.ofJson? reading j = Tag.ofJson? reading j'
  isNothing_eq : ∀ reading, j.isNothing reading = j'.isNothing reading

theorem Alike.refl (j : Json) : Alike j j :=
  ⟨fun _ _ => rfl, fun _ => rfl, fun _ => rfl⟩

theorem Alike.trans {j k l : Json} (first : Alike j k) (second : Alike k l) : Alike j l :=
  ⟨fun shape reading => (first.read_eq shape reading).trans (second.read_eq shape reading),
    fun reading => (first.tag_eq reading).trans (second.tag_eq reading),
    fun reading => (first.isNothing_eq reading).trans (second.isNothing_eq reading)⟩

/-- The members of two objects mean the same, name by name. -/
structure AlikeMembers (members members' : List (String × Json)) : Prop where
  length_eq : members.length = members'.length
  agree : ∀ name, Agree Alike (occurrences members name) (occurrences members' name)

theorem AlikeMembers.of_perm {members members' : List (String × Json)}
    (h : members.Perm members') : AlikeMembers members members' :=
  ⟨h.length_eq, fun name => .of_perm Alike.refl (occurrences_perm h name)⟩

theorem AlikeMembers.replace {j j' : Json} (h : Alike j j') (name : String)
    (before after : List (String × Json)) :
    AlikeMembers (before ++ (name, j) :: after) (before ++ (name, j') :: after) :=
  ⟨by simp, fun _ => .replace_member Alike.refl (fun _ => h) before after⟩

variable {members members' : List (String × Json)}

/-- An object with one member has one of the same name that means the same, and any other object is
no object with one member either. -/
theorem AlikeMembers.cases (h : AlikeMembers members members') :
    (∃ name data data', members = [(name, data)] ∧ members' = [(name, data')] ∧ Alike data data') ∨
      (members = [] ∧ members' = []) ∨
      ∃ a b rest a' b' rest', members = a :: b :: rest ∧ members' = a' :: b' :: rest' := by
  match members, members', h with
  | [], [], _ => exact .inr (.inl ⟨rfl, rfl⟩)
  | [(name, data)], [(name', data')], h =>
    have hagree := h.agree name
    by_cases hname : name' = name
    · subst hname
      simp only [occurrences_cons_self] at hagree
      cases hagree with
      | once hdata => exact .inl ⟨name', data, data', rfl, rfl, hdata⟩
    · simp only [occurrences_cons_self, occurrences_cons_of_ne hname] at hagree
      cases hagree
  | a :: b :: rest, a' :: b' :: rest', _ =>
    exact .inr (.inr ⟨a, b, rest, a', b', rest', rfl, rfl⟩)
  | _ :: _ :: _, [_], h => cases h.length_eq

theorem AlikeMembers.bareName?_eq (h : AlikeMembers members members') (reading : Reading) :
    (obj members).bareName? reading = (obj members').bareName? reading := by
  obtain ⟨name, data, data', rfl, rfl, hdata⟩ | ⟨rfl, rfl⟩ | ⟨_, _, _, _, _, _, rfl, rfl⟩ := h.cases
  · simp only [bareName?, hdata.isNothing_eq]
  · rfl
  · rfl

theorem AlikeMembers.isNothing_eq (h : AlikeMembers members members') (reading : Reading) :
    (obj members).isNothing reading = (obj members').isNothing reading := by
  match members, members', h.length_eq with
  | [], [], _ => rfl
  | _ :: _, _ :: _, _ => rfl

theorem Alike.readCase_eq {data data' : Json} (h : Alike data data') {α : Type} :
    (cases : Cases α) → (reading : Reading) → (name : String) →
    cases.read reading name data = cases.read reading name data'
  | .empty, _, _ => rfl
  | .bare first rest, reading, name => by
    rw [Cases.read, Cases.read, h.isNothing_eq, h.readCase_eq rest]
  | .data first fields rest, reading, name => by
    rw [Cases.read_data, Cases.read_data, h.read_eq, h.readCase_eq rest]
  | .assembled cases assembly, reading, name => by
    rw [Cases.read, Cases.read, h.readCase_eq cases]

theorem AlikeMembers.read_eq (h : AlikeMembers members members') {α : Type} :
    (shape : Shape α) → (reading : Reading) →
    shape.read reading (.obj members) = shape.read reading (.obj members')
  | .flag, _ | .int _, _ | .text, _ | .list _, _ => rfl
  | .keyword spelling, reading => by
    rw [Shape.read, Shape.read, h.bareName?_eq]
  | .nullable item, reading => by
    rw [Shape.read_nullable_of_ne (by simp), Shape.read_nullable_of_ne (by simp), h.read_eq item]
  | .assembled shape assembly, reading => by
    rw [Shape.read, Shape.read, h.read_eq shape]
  | .union cases, reading => by
    obtain ⟨name, data, data', rfl, rfl, hdata⟩ | ⟨rfl, rfl⟩ | ⟨_, _, _, _, _, _, rfl, rfl⟩ :=
      h.cases
    · exact hdata.readCase_eq cases reading name
    · rfl
    · rfl
  | .struct fields, reading | .merged own inner, reading | .tagged tag variants, reading => by
    apply Shape.read_obj_congr rfl
    · intro tag htag
      exact Tag.inMembers?_congr ((h.agree tag).mono fun j j' hj => hj.tag_eq reading)
    · intro field hfield
      exact (h.agree field.name).mono fun j j' hj => hj.read_eq field.shape field.reading

theorem AlikeMembers.alike (h : AlikeMembers members members') :
    Alike (.obj members) (.obj members') :=
  ⟨h.read_eq, fun _ => rfl, h.isNothing_eq⟩

variable {j j' : Json}

theorem Alike.sameFor_replace (h : Alike j j') {α : Type} (known : List (KnownField α))
    (before after : List Json) :
    Body.SameFor known (.positional (before ++ j :: after))
      (.positional (before ++ j' :: after)) :=
  Body.sameFor_replace (fun field _ => h.read_eq field.shape field.reading) after

theorem Alike.read_replace (h : Alike j j') (before after : List Json) {α : Type} :
    (shape : Shape α) → (reading : Reading) →
    shape.read reading (.arr (before ++ j :: after)) =
      shape.read reading (.arr (before ++ j' :: after))
  | .flag, _ | .int _, _ | .text, _ | .keyword _, _ | .merged _ _, _ | .union _, _ => rfl
  | .nullable item, reading => by
    rw [Shape.read_nullable_of_ne (by simp), Shape.read_nullable_of_ne (by simp),
      h.read_replace before after item]
  | .list item, reading => by
    simp only [Shape.read, List.mapM_append, List.mapM_cons, h.read_eq]
  | .struct fields, reading => Fields.read_congr (h.sameFor_replace _ before after)
  | .tagged tag variants, reading => by
    cases before with
    | nil =>
      -- The value that is replaced is the tag itself.
      simp only [List.nil_append, Shape.read, h.tag_eq]
    | cons first before =>
      simp only [List.cons_append, Shape.read]
      refine congrArg _ (funext fun t => ?_)
      exact Variants.read_congr (h.sameFor_replace _ before after)
  | .assembled shape assembly, reading => by
    rw [Shape.read, Shape.read, h.read_replace before after shape]

theorem Alike.replace (h : Alike j j') (before after : List Json) :
    Alike (.arr (before ++ j :: after)) (.arr (before ++ j' :: after)) :=
  ⟨h.read_replace before after, fun _ => rfl, fun _ => rfl⟩

theorem Reordered.alike (h : Reordered j j') : Alike j j' := by
  induction h with
  | refl j => exact .refl j
  | trans _ _ first second => exact first.trans second
  | object h => exact (AlikeMembers.of_perm h).alike
  | item before after _ ih => exact ih.replace before after
  | member name before after _ ih => exact (AlikeMembers.replace ih name before after).alike

end Json

/-- Putting members in another order does not change what is read. -/
theorem Shape.decode_reordered {α : Type} (shape : Shape α) {j j' : Json}
    (h : Json.Reordered j j') : shape.decode j = shape.decode j' :=
  h.alike.read_eq shape .direct

end CellularRegistration
