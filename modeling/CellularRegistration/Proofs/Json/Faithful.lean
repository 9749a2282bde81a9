import CellularRegistration.Proofs.Json.Places
import CellularRegistration.Proofs.Json.RoundTrip

namespace CellularRegistration

/-- The name of the case that a value is of. -/
def Cases.nameOf {α : Type} : Cases α → α → String
  | .empty, a => nomatch a
  | .bare name _, .inl () => name
  | .bare _ rest, .inr b => rest.nameOf b
  | .data name _ _, .inl _ => name
  | .data _ _ rest, .inr b => rest.nameOf b
  | .assembled cases assembly, b => cases.nameOf (assembly.view b)

/-- A value stands in JSON as it is. A flag, a number or a text is nothing but itself, null is the
null of a value that may be null, and a name is the name of what it stands for. -/
def Shape.Shows {α : Type} : Shape α → Json → α → Prop
  | .flag, j, b => j = .bool b
  | .int word, j, a => j = .int (word.toInt a)
  | .text, j, s => j = .str s
  | .keyword spelling, j, a => ∃ data, j.case? = some (spelling.name a, data)
  | .nullable _, j, none => j = .null
  | .nullable item, j, some a => j ≠ .null ∧ item.Shows j a
  | .list item, j, as => ∃ js, j = .arr js ∧ List.Forall₂ (fun j a => item.Shows j a) js as
  | .struct _, j, _ | .tagged _ _, j, _ => (Body.ofJson? j).isSome = true
  | .merged _ _, j, _ => ∃ members, j = .obj members
  | .union cases, j, a => ∃ data, j.case? = some (cases.nameOf a, data)
  | .assembled shape assembly, j, b => shape.Shows j (assembly.view b)

theorem Json.case?_of_bareName? {reading : Reading} {j : Json} {name : String}
    (h : j.bareName? reading = some name) : ∃ data, j.case? = some (name, data) := by
  match j, h with
  | .str _, h =>
    cases h
    exact ⟨.null, rfl⟩
  | .obj [(first, data)], h =>
    simp only [bareName?] at h
    split at h
    · cases h
      exact ⟨data, rfl⟩
    · cases h

theorem Cases.nameOf_of_read {α : Type} : (cases : Cases α) → {reading : Reading} →
    {name : String} → {j : Json} → {a : α} → cases.read reading name j = some a →
    cases.nameOf a = name
  | .empty, _, _, _, a, _ => nomatch a
  | .bare first rest, reading, name, j, a, h => by
    rw [read] at h
    split at h
    next hname =>
      split at h
      · cases h
        exact (beq_iff_eq.1 hname).symm
      · cases h
    next =>
      obtain ⟨b, hb, rfl⟩ := Option.map_eq_some_iff.1 h
      exact rest.nameOf_of_read hb
  | .data first fields rest, reading, name, j, a, h => by
    rw [Cases.read_data] at h
    split at h
    next hname =>
      obtain ⟨b, -, rfl⟩ := Option.map_eq_some_iff.1 h
      exact (beq_iff_eq.1 hname).symm
    next =>
      obtain ⟨b, hb, rfl⟩ := Option.map_eq_some_iff.1 h
      exact rest.nameOf_of_read hb
  | .assembled cases assembly, reading, name, j, a, h => by
    exact cases.nameOf_of_read (assembly.map_build_eq_some_iff.1 h)

/-- Nothing is converted when a value is read. -/
theorem Shape.shows_of_read {α : Type} : (shape : Shape α) → {reading : Reading} → {j : Json} →
    {a : α} → shape.read reading j = some a → shape.Shows j a
  | .flag, reading, j, b, h => by
    cases j with
    | bool b => simpa [Shape.read, Shows] using h
    | _ => cases h
  | .int word, reading, j, a, h => by
    cases j with
    | int n => simpa [Shows] using ((word.ofInt?_eq_some_iff n a).1 h).symm
    | _ => cases h
  | .text, reading, j, s, h => by
    cases j with
    | str s => simpa [Shape.read, Shows] using h
    | _ => cases h
  | .keyword spelling, reading, j, a, h => by
    obtain ⟨name, hname, hfind⟩ := Option.bind_eq_some_iff.1 h
    rw [Shows, (spelling.find?_eq_some_iff name a).1 hfind]
    exact Json.case?_of_bareName? hname
  | .nullable item, reading, j, o, h => by
    by_cases hnull : j = .null
    · subst hnull
      cases h
      exact rfl
    · rw [read_nullable_of_ne hnull, Option.map_eq_some_iff] at h
      obtain ⟨a, ha, rfl⟩ := h
      exact ⟨hnull, item.shows_of_read ha⟩
  | .list item, reading, j, as, h => by
    cases j with
    | arr js => exact ⟨js, rfl, (mapM_eq_some_iff.1 h).imp fun _ _ hitem => item.shows_of_read hitem⟩
    | _ => cases h
  | .struct fields, reading, j, a, h => by
    obtain ⟨body, hbody, -⟩ := Option.bind_eq_some_iff.1 h
    simp [Shows, hbody]
  | .merged own inner, reading, j, a, h => by
    cases j with
    | obj members => exact ⟨members, rfl⟩
    | _ => cases h
  | .tagged tag variants, reading, j, a, h => by
    cases j with
    | obj members | arr items => rfl
    | _ => cases h
  | .union cases, reading, j, a, h => by
    rw [read_union] at h
    obtain ⟨⟨name, data⟩, hcase, hread⟩ := Option.bind_eq_some_iff.1 h
    rw [Shows, cases.nameOf_of_read hread]
    exact ⟨data, hcase⟩
  | .assembled shape assembly, reading, j, b, h => by
    exact shape.shows_of_read (assembly.map_build_eq_some_iff.1 h)

/-- What the member of a field shows, if the field has one, is the value in a structure. -/
def KnownField.ShownIn {α : Type} (field : KnownField α) (members : List (String × Json)) (a : α) :
    Prop :=
  ∀ j ∈ Json.occurrences members field.name,
    ∃ value, field.get a = some value ∧ field.shape.Shows j value

theorem KnownField.TakenFrom.shownIn {α : Type} {field : KnownField α}
    {members : List (String × Json)} {a : α} (h : field.TakenFrom members a) :
    field.ShownIn members a := by
  intro j hj
  obtain ⟨value, hget, ⟨k, honce, hread⟩ | ⟨hnone, -⟩⟩ := h
  · obtain rfl : j = k := by simpa [honce] using hj
    exact ⟨value, hget, field.shape.shows_of_read hread⟩
  · simp [hnone] at hj

theorem Shape.occurrences_tag_of_read {α : Type} {shape : Shape α} {reading : Reading}
    {members : List (String × Json)} {a : α} (h : shape.read reading (.obj members) = some a)
    {tag : String} (htag : shape.tag? = some tag) : ∃ j, Json.occurrences members tag = [j] := by
  cases shape with
  | tagged tag variants =>
    cases htag
    rw [read_tagged] at h
    obtain ⟨t, ht, -⟩ := Option.bind_eq_some_iff.1 h
    unfold Tag.inMembers? at ht
    split at ht
    next j honce => exact ⟨j, honce⟩
    next => cases ht
  | _ => cases htag

namespace Place

variable {α : Type} {place : Place α} {members : List (String × Json)}

/-- Members with names that the reader does not look for are passed over. -/
theorem read_padded (hkeyed : place.shape.isKeyed = true) {extra padded : List (String × Json)}
    (hextra : ∀ member ∈ extra, member.1 ∉ place.names members)
    (hpadded : padded.Perm (members ++ extra)) : place.read padded = place.read members := by
  have hoccurrences : ∀ name ∈ place.names members,
      (Json.occurrences members name).Perm (Json.occurrences padded name) := by
    intro name hname
    have hnone : Json.occurrences extra name = [] := by
      rw [Json.occurrences_eq_nil_iff, List.mem_map]
      rintro ⟨member, hmember, rfl⟩
      exact hextra member hmember hname
    have hperm := Json.occurrences_perm hpadded name
    rw [Json.occurrences_append, hnone, List.append_nil] at hperm
    exact hperm.symm
  symm
  apply Shape.read_obj_congr hkeyed
  · intro tag htag
    have hname : tag ∈ place.names members := by simp [names, Shape.memberNames, htag]
    have hagree : Json.Agree Eq (Json.occurrences members tag) (Json.occurrences padded tag) :=
      .of_perm (fun _ => rfl) (hoccurrences tag hname)
    exact Tag.inMembers?_congr (hagree.mono fun _ _ => congrArg _)
  · intro field hfield
    have hname : field.name ∈ place.names members :=
      List.mem_append_right _ (List.mem_map_of_mem hfield)
    exact .of_perm field.same_refl (hoccurrences field.name hname)

/-- No name that the reader looks for is given twice. -/
theorem read_repeated (hkeyed : place.shape.isKeyed = true) {name : String}
    (hname : name ∈ place.names members) (hrepeated : 2 ≤ (Json.occurrences members name).length) :
    place.read members = none := by
  rw [Option.eq_none_iff_forall_ne_some]
  intro part hread
  obtain htag | hknown := List.mem_append.1 hname
  · obtain ⟨j, honce⟩ := Shape.occurrences_tag_of_read hread (Option.mem_toList.1 htag)
    simp [honce] at hrepeated
  · obtain ⟨field, hfield, rfl⟩ := List.mem_map.1 hknown
    obtain ⟨value, -, ⟨j, honce, -⟩ | ⟨hnone, -⟩⟩ := Shape.takenFrom_of_read hkeyed hread field hfield
    · simp [honce] at hrepeated
    · simp [hnone] at hrepeated

end Place

/-- Objects are read faithfully wherever the reader comes to them. -/
structure Shape.Faithful {α : Type} (shape : Shape α) : Prop where
  /-- Every value is decoded from some JSON. -/
  reached : ∀ a, ∃ j, shape.decode j = some a
  /-- The members of any object may have any order. -/
  order_free : ∀ j j', Json.Reordered j j' → shape.decode j = shape.decode j'
  /-- Members with unknown names do not matter. -/
  unknown_ignored : ∀ place, shape.Interprets .direct place → ∀ members extra padded,
    (∀ member ∈ extra, member.1 ∉ place.names members) → padded.Perm (members ++ extra) →
    shape.decode (place.json padded) = shape.decode (place.json members)
  /-- A tag or a known field that is given twice is refused. -/
  repeated_refused : ∀ place, shape.Interprets .direct place → ∀ members,
    ∀ name ∈ place.names members, 2 ≤ (Json.occurrences members name).length →
    shape.decode (place.json members) = none
  /-- Each known field has the value of its member as it stands there, or its value without one. -/
  fields_exact : ∀ place, shape.Interprets .direct place → ∀ members a,
    shape.decode (place.json members) = some a →
    ∃ part, place.get a = some part ∧
      ∀ field ∈ place.shape.known place.reading members,
        field.TakenFrom members part ∧ field.ShownIn members part

theorem Shape.Interprets.isKeyed {α : Type} {shape : Shape α} {reading : Reading} {place : Place α}
    (h : shape.Interprets reading place) : place.shape.isKeyed = true := by
  induction h with
  | top hkeyed => exact hkeyed
  | nullable h ih | item _ _ h ih | member _ _ _ _ h ih | fieldItem _ _ _ h ih
  | variantItem _ _ _ _ h ih | data _ h ih | assembled _ h ih => exact ih

theorem Shape.faithful_of_isUnambiguous {α : Type} {shape : Shape α}
    (hunambiguous : shape.isUnambiguous = true) : shape.Faithful where
  reached a := ⟨shape.write a, (roundTrips_of_isUnambiguous hunambiguous).decode_write a⟩
  order_free j j' hreordered := shape.decode_reordered hreordered
  unknown_ignored place hplace members extra padded hextra hpadded :=
    hplace.read_congr hunambiguous (Place.read_padded hplace.isKeyed hextra hpadded)
  repeated_refused place hplace members name hname hrepeated := by
    rw [Option.eq_none_iff_forall_ne_some]
    intro a hread
    obtain ⟨part, -, hpart⟩ := hplace.hasPart hunambiguous hread
    rw [Place.read_repeated hplace.isKeyed hname hrepeated] at hpart
    cases hpart
  fields_exact place hplace members a hread := by
    obtain ⟨part, hget, hpart⟩ := hplace.hasPart hunambiguous hread
    have htaken := takenFrom_of_read hplace.isKeyed hpart
    exact ⟨part, hget, fun field hfield => ⟨htaken field hfield, (htaken field hfield).shownIn⟩⟩

/-- Reports, records and service states are decoded faithfully. -/
theorem decode_faithful :
    Payload.shape.Faithful ∧ RegistrationRecord.shape.Faithful ∧ ServiceState.shape.Faithful :=
  ⟨Shape.faithful_of_isUnambiguous Payload.isUnambiguous_shape,
    Shape.faithful_of_isUnambiguous RegistrationRecord.isUnambiguous_shape,
    Shape.faithful_of_isUnambiguous ServiceState.isUnambiguous_shape⟩

/-- The reader of a report comes to the operator names of its cell. -/
example : ∃ place : Place Payload, Payload.shape.Interprets .direct place ∧
    ∀ members, place.json members =
      .obj [("base", .obj [("cell_identity", .obj [("operator_names", .obj members)])]),
        ("version", .str "data-1.4")] := by
  refine ⟨_, .member rfl [] [("version", .str "data-1.4")] (.head _) <|
    .member rfl [] [] (List.mem_of_getElem? (i := 4) rfl) <| .nullable <|
      .member rfl [] [] (.tail _ (.head _)) (.top rfl), fun members => rfl⟩

end CellularRegistration
