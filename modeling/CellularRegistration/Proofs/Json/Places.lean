import CellularRegistration.Proofs.Json.KnownFields
import CellularRegistration.Proofs.Json.Layout
import Mathlib.Data.List.Nodup

namespace CellularRegistration

theorem KnownField.map_name_within {α β : Type} (part : β → Option α) (known : List (KnownField α)) :
    (known.map (.within part)).map KnownField.name = known.map KnownField.name := by
  rw [List.map_map]
  rfl

theorem Fields.map_name_known {α : Type} : (fields : Fields α) → (reading : Reading) →
    (fields.known reading).map KnownField.name = fields.names
  | .empty, _ => rfl
  | .field name shape default rest, reading => by
    rw [known, List.map_cons, KnownField.map_name_within, rest.map_name_known, names]
  | .assembled fields assembly, reading => by
    rw [known, KnownField.map_name_within, fields.map_name_known, names]

theorem Fields.isUnambiguous_known {α : Type} : (fields : Fields α) → fields.isUnambiguous = true →
    (reading : Reading) → ∀ field ∈ fields.known reading, field.shape.isUnambiguous = true
  | .empty, _, _ => by simp [known]
  | .field name shape default rest, h, reading => by
    simp only [isUnambiguous, Bool.and_eq_true] at h
    rw [known, List.forall_mem_cons, List.forall_mem_map]
    exact ⟨h.1, rest.isUnambiguous_known h.2 reading⟩
  | .assembled fields assembly, h, reading => by
    simp only [isUnambiguous] at h
    rw [known, List.forall_mem_map]
    exact fields.isUnambiguous_known h reading

theorem Variants.nodup_known {α : Type} : (variants : Variants α) → {tag : String} →
    variants.isUnambiguous tag = true → (t : Tag) →
    (tag :: (variants.known t).map KnownField.name).Nodup
  | .empty, tag, _, _ => by simp [known]
  | .variant name fields rest, tag, h, t => by
    simp only [isUnambiguous, Bool.and_eq_true, decide_eq_true_eq] at h
    obtain ⟨hfields, -, hrest⟩ := h
    rw [known]
    split
    · rwa [KnownField.map_name_within, fields.map_name_known]
    · rw [KnownField.map_name_within]
      exact rest.nodup_known hrest t.next
  | .assembled variants assembly, tag, h, t => by
    simp only [isUnambiguous] at h
    rw [known, KnownField.map_name_within]
    exact variants.nodup_known h t

theorem Variants.isUnambiguous_known {α : Type} : (variants : Variants α) → {tag : String} →
    variants.isUnambiguous tag = true → (t : Tag) →
    ∀ field ∈ variants.known t, field.shape.isUnambiguous = true
  | .empty, _, _, _ => by simp [known]
  | .variant name fields rest, tag, h, t => by
    simp only [isUnambiguous, Bool.and_eq_true] at h
    obtain ⟨-, hfields, hrest⟩ := h
    rw [known]
    split
    · rw [List.forall_mem_map]
      exact fields.isUnambiguous_known hfields .gathered
    · rw [List.forall_mem_map]
      exact rest.isUnambiguous_known hrest t.next
  | .assembled variants assembly, tag, h, t => by
    simp only [isUnambiguous] at h
    rw [known, List.forall_mem_map]
    exact variants.isUnambiguous_known h t

/-- The cases that have data. The data of a case are a structure, as if they were a field that has
the name of the case. -/
def Cases.known {α : Type} : Cases α → Reading → List (KnownField α)
  | .empty, _ => []
  | .bare _ rest, reading => (rest.known reading).map (.within Sum.getRight?)
  | .data name fields rest, reading =>
    ⟨name, .struct fields, reading, none, Sum.getLeft?⟩ ::
      (rest.known reading).map (.within Sum.getRight?)
  | .assembled cases assembly, reading =>
    (cases.known reading).map (.within fun b => some (assembly.view b))

theorem Cases.name_mem_names {α : Type} : (cases : Cases α) → {reading : Reading} →
    ∀ field ∈ cases.known reading, field.name ∈ cases.names
  | .empty, _ => by simp [known]
  | .bare name rest, reading => by
    rw [known, List.forall_mem_map]
    exact fun field hfield => List.mem_cons_of_mem _ (rest.name_mem_names field hfield)
  | .data name fields rest, reading => by
    rw [known, List.forall_mem_cons, List.forall_mem_map]
    exact ⟨List.mem_cons_self,
      fun field hfield => List.mem_cons_of_mem _ (rest.name_mem_names field hfield)⟩
  | .assembled cases assembly, reading => by
    rw [known, List.forall_mem_map]
    exact cases.name_mem_names

theorem Cases.isUnambiguous_known {α : Type} : (cases : Cases α) → cases.isUnambiguous = true →
    (reading : Reading) → ∀ field ∈ cases.known reading, field.shape.isUnambiguous = true
  | .empty, _, _ => by simp [known]
  | .bare name rest, h, reading => by
    simp only [isUnambiguous] at h
    rw [known, List.forall_mem_map]
    exact rest.isUnambiguous_known h reading
  | .data name fields rest, h, reading => by
    simp only [isUnambiguous, Bool.and_eq_true] at h
    rw [known, List.forall_mem_cons, List.forall_mem_map]
    exact ⟨by simp only [Shape.isUnambiguous, h, Bool.and_self], rest.isUnambiguous_known h.2.2 reading⟩
  | .assembled cases assembly, h, reading => by
    simp only [isUnambiguous] at h
    rw [known, List.forall_mem_map]
    exact cases.isUnambiguous_known h reading

/-- The value of a case that has data is the one that the data stand for. -/
theorem Cases.read_known_iff {α : Type} : (cases : Cases α) → cases.names.Nodup →
    (reading : Reading) → (j : Json) → (a : α) → ∀ field ∈ cases.known reading,
    (cases.read reading field.name j = some a ↔
      ∃ value, field.get a = some value ∧ field.shape.read field.reading j = some value)
  | .empty, _, _, _, _ => by simp [known]
  | .bare first rest, hnodup, reading, j, a => by
    obtain ⟨hfirst, hnodup⟩ := List.nodup_cons.1 hnodup
    rw [known, List.forall_mem_map]
    intro field hfield
    have hne : field.name ≠ first := fun heq => hfirst (heq ▸ rest.name_mem_names field hfield)
    cases a with
    | inl a => simp [read, KnownField.within, hne]
    | inr b =>
      have hrest := rest.read_known_iff hnodup reading j b field hfield
      simpa [read, KnownField.within, hne] using hrest
  | .data first fields rest, hnodup, reading, j, a => by
    obtain ⟨hfirst, hnodup⟩ := List.nodup_cons.1 hnodup
    rw [known, List.forall_mem_cons, List.forall_mem_map]
    refine ⟨?_, fun field hfield => ?_⟩
    · cases a with
      | inl a => simp [Cases.read_data]
      | inr b => simp [Cases.read_data]
    · have hne : field.name ≠ first := fun heq => hfirst (heq ▸ rest.name_mem_names field hfield)
      cases a with
      | inl a => simp [Cases.read_data, KnownField.within, hne]
      | inr b =>
        have hrest := rest.read_known_iff hnodup reading j b field hfield
        simpa [Cases.read_data, KnownField.within, hne] using hrest
  | .assembled cases assembly, hnodup, reading, j, b => by
    rw [known, List.forall_mem_map]
    intro field hfield
    have hcases := cases.read_known_iff hnodup reading j (assembly.view b) field hfield
    simp only [KnownField.within, Option.bind_some, ← hcases, read, assembly.map_build_eq_some_iff]

namespace Shape

variable {α : Type} {shape : Shape α} {reading : Reading}

/-- The names that the reader of an object looks for: the tag and the known fields. -/
def memberNames (shape : Shape α) (reading : Reading) (members : List (String × Json)) :
    List String :=
  shape.tag?.toList ++ (shape.known reading members).map KnownField.name

theorem memberNames_nodup (h : shape.isUnambiguous = true) (reading : Reading)
    (members : List (String × Json)) : (shape.memberNames reading members).Nodup := by
  unfold memberNames
  cases shape with
  | struct fields =>
    simp only [isUnambiguous, Bool.and_eq_true, decide_eq_true_eq] at h
    rw [known, Fields.map_name_known]
    exact h.1
  | merged own inner =>
    simp only [isUnambiguous, Bool.and_eq_true, decide_eq_true_eq] at h
    rw [known, List.map_append, KnownField.map_name_within, KnownField.map_name_within,
      Fields.map_name_known, Fields.map_name_known]
    exact h.1
  | tagged tag variants =>
    simp only [isUnambiguous, Bool.and_eq_true] at h
    simp only [tag?, known]
    cases Tag.inMembers? reading tag members with
    | none => simp
    | some t => exact variants.nodup_known h.2 t
  | _ => exact List.nodup_nil

theorem isUnambiguous_known (h : shape.isUnambiguous = true) (members : List (String × Json)) :
    ∀ field ∈ shape.known reading members, field.shape.isUnambiguous = true := by
  cases shape with
  | struct fields =>
    simp only [isUnambiguous, Bool.and_eq_true] at h
    exact fields.isUnambiguous_known h.2 reading
  | merged own inner =>
    simp only [isUnambiguous, Bool.and_eq_true] at h
    rw [known, List.forall_mem_append, List.forall_mem_map, List.forall_mem_map]
    exact ⟨own.isUnambiguous_known h.2.1 reading, inner.isUnambiguous_known h.2.2 .gathered⟩
  | tagged tag variants =>
    simp only [isUnambiguous, Bool.and_eq_true] at h
    simp only [known]
    cases Tag.inMembers? reading tag members with
    | none => simp
    | some t => exact variants.isUnambiguous_known h.2 t
  | _ => simp [known]

/-- Only the tag decides which fields are known. -/
theorem known_congr {members members' : List (String × Json)}
    (h : ∀ tag, shape.tag? = some tag →
      Json.occurrences members tag = Json.occurrences members' tag) :
    shape.known reading members = shape.known reading members' := by
  cases shape with
  | tagged tag variants => simp only [known, Tag.inMembers?, h tag rfl]
  | _ => rfl

/-- The reader knows a field whether or not the object has a member for it. -/
theorem known_insert (h : shape.isUnambiguous = true) {before after : List (String × Json)}
    {field : KnownField α} (hfield : field ∈ shape.known reading (before ++ after)) (j : Json) :
    (∀ tag, shape.tag? = some tag → field.name ≠ tag) ∧
      shape.known reading (before ++ (field.name, j) :: after) =
        shape.known reading (before ++ after) := by
  have hne : ∀ tag, shape.tag? = some tag → field.name ≠ tag := by
    intro tag htag heq
    have hnodup := memberNames_nodup h reading (before ++ after)
    rw [memberNames, htag, Option.toList_some, List.singleton_append, List.nodup_cons] at hnodup
    exact hnodup.1 (heq ▸ List.mem_map_of_mem hfield)
  refine ⟨hne, known_congr fun tag htag => ?_⟩
  exact Json.occurrences_insert_of_ne (hne tag htag) j before after

end Shape

/-- A field that has a member takes its value from it. -/
theorem KnownField.TakenFrom.of_mem {α : Type} {field : KnownField α}
    {members : List (String × Json)} {a : α} (h : field.TakenFrom members a) {j : Json}
    (hmem : (field.name, j) ∈ members) :
    ∃ value, field.get a = some value ∧ field.shape.read field.reading j = some value := by
  have hmem : j ∈ Json.occurrences members field.name :=
    List.mem_map.2 ⟨(field.name, j), List.mem_filter.2 ⟨hmem, by simp⟩, rfl⟩
  obtain ⟨value, hget, ⟨k, honce, hread⟩ | ⟨hnone, -⟩⟩ := h
  · obtain rfl : j = k := by simpa [honce] using hmem
    exact ⟨value, hget, hread⟩
  · simp [hnone] at hmem

/-- A field that has an item takes its value from it. -/
theorem Body.Fits.takenAt {α : Type} {known : List (KnownField α)} {before after : List Json}
    {j : Json} {a : α} (h : (Body.positional (before ++ j :: after)).Fits known a)
    {field : KnownField α} (hfield : known[before.length]? = some field) :
    ∃ value, field.get a = some value ∧ field.shape.read field.reading j = some value := by
  have htaken := h.2 before.length field hfield
  simpa [KnownField.TakenAt] using htaken

/-- An object that stands somewhere in a JSON value. -/
structure Place (Whole : Type) where
  {Part : Type}
  /-- The whole JSON value with such an object in the place. -/
  json : List (String × Json) → Json
  /-- How the object is read. -/
  shape : Shape Part
  reading : Reading
  /-- What a whole value has in the place. -/
  get : Whole → Option Part

namespace Place

variable {α β : Type}

/-- A whole value that is an object. -/
def top (shape : Shape α) (reading : Reading) : Place α :=
  ⟨.obj, shape, reading, some⟩

/-- A place in a part is a place in the whole. -/
def inside (place : Place α) (wrap : Json → Json) (part : β → Option α) : Place β :=
  { place with
    json := fun members => wrap (place.json members)
    get := fun whole => (part whole).bind place.get }

/-- What is read in the place. -/
def read (place : Place α) (members : List (String × Json)) : Option place.Part :=
  place.shape.read place.reading (.obj members)

/-- A whole value has in the place what is read there. -/
def HasPart (place : Place α) (members : List (String × Json)) (a : α) : Prop :=
  ∃ part, place.get a = some part ∧ place.read members = some part

theorem HasPart.inside {place : Place α} {members : List (String × Json)} {a : α}
    (h : place.HasPart members a) {wrap : Json → Json} {part : β → Option α} {whole : β}
    (hpart : part whole = some a) : (place.inside wrap part).HasPart members whole := by
  obtain ⟨inner, hget, hread⟩ := h
  exact ⟨inner, by simp only [Place.inside, hpart, Option.bind_some, hget], hread⟩

/-- The names that the reader looks for in the place. -/
def names (place : Place α) (members : List (String × Json)) : List String :=
  place.shape.memberNames place.reading members

end Place

/-- The reader comes to an object in this place, if it does not stop before. -/
inductive Shape.Interprets : {α : Type} → Shape α → Reading → Place α → Prop where
  | top {α : Type} {shape : Shape α} {reading : Reading} (hkeyed : shape.isKeyed = true) :
      Interprets shape reading (.top shape reading)
  | nullable {α : Type} {item : Shape α} {reading : Reading} {place : Place α}
      (h : Interprets item reading place) :
      Interprets (.nullable item) reading (place.inside id id)
  | item {α : Type} {item : Shape α} {reading : Reading} {place : Place α} (before after : List Json)
      (h : Interprets item reading place) :
      Interprets (.list item) reading
        (place.inside (fun j => .arr (before ++ j :: after)) fun as => as[before.length]?)
  | member {α : Type} {shape : Shape α} {reading : Reading} {field : KnownField α}
      {place : Place field.Value} (hkeyed : shape.isKeyed = true) (before after : List (String × Json))
      (hfield : field ∈ shape.known reading (before ++ after))
      (h : Interprets field.shape field.reading place) :
      Interprets shape reading
        (place.inside (fun j => .obj (before ++ (field.name, j) :: after)) field.get)
  | fieldItem {α : Type} {fields : Fields α} {reading : Reading} {field : KnownField α}
      {place : Place field.Value} (before after : List Json)
      (hfield : (fields.known reading)[before.length]? = some field)
      (h : Interprets field.shape field.reading place) :
      Interprets (.struct fields) reading
        (place.inside (fun j => .arr (before ++ j :: after)) field.get)
  | variantItem {α : Type} {tag : String} {variants : Variants α} {reading : Reading} {first : Json}
      {t : Tag} {field : KnownField α} {place : Place field.Value} (before after : List Json)
      (htag : Tag.ofJson? reading first = some t)
      (hfield : (variants.known t)[before.length]? = some field)
      (h : Interprets field.shape field.reading place) :
      Interprets (.tagged tag variants) reading
        (place.inside (fun j => .arr (first :: (before ++ j :: after))) field.get)
  | data {α : Type} {cases : Cases α} {reading : Reading} {field : KnownField α}
      {place : Place field.Value} (hfield : field ∈ cases.known reading)
      (h : Interprets field.shape field.reading place) :
      Interprets (.union cases) reading
        (place.inside (fun j => .obj [(field.name, j)]) field.get)
  | assembled {α β : Type} {shape : Shape α} {reading : Reading} {place : Place α}
      (assembly : Assembly α β) (h : Interprets shape reading place) :
      Interprets (.assembled shape assembly) reading
        (place.inside id fun b => some (assembly.view b))

namespace Shape.Interprets

variable {α : Type} {shape : Shape α} {reading : Reading} {place : Place α}

theorem json_ne_null (h : shape.Interprets reading place) (members : List (String × Json)) :
    place.json members ≠ .null := by
  induction h with
  | nullable h ih | assembled assembly h ih => exact ih
  | _ => simp [Place.top, Place.inside]

/-- If objects in the place are read alike there, the wholes are read alike. -/
theorem read_congr (h : shape.Interprets reading place) (hunambiguous : shape.isUnambiguous = true)
    {members members' : List (String × Json)} (hread : place.read members = place.read members') :
    shape.read reading (place.json members) = shape.read reading (place.json members') := by
  induction h with
  | top hkeyed => exact hread
  | @nullable α item reading place h ih =>
    simp only [isUnambiguous, Bool.and_eq_true] at hunambiguous
    have hitem := ih hunambiguous.2 hread
    simp only [Place.inside, id]
    rw [read_nullable_of_ne (h.json_ne_null members), read_nullable_of_ne (h.json_ne_null members'),
      hitem]
  | item before after h ih =>
    simp only [isUnambiguous] at hunambiguous
    have hitem := ih hunambiguous hread
    simp only [Place.inside, Shape.read, List.mapM_append, List.mapM_cons, hitem]
  | @member α shape reading field place hkeyed before after hfield h ih =>
    have hvalue := ih (isUnambiguous_known hunambiguous _ field hfield) hread
    obtain ⟨hne, hknown⟩ := known_insert hunambiguous hfield (place.json members)
    have hnodup := memberNames_nodup hunambiguous reading (before ++ after)
    simp only [Place.inside]
    apply read_obj_congr hkeyed
    · intro tag htag
      simp only [Tag.inMembers?, Json.occurrences_insert_of_ne (hne tag htag)]
    · intro other hother
      rw [hknown] at hother
      refine .replace_member other.same_refl (fun hname => ?_) before after
      -- No two known fields have one name.
      have heq : field = other :=
        List.inj_on_of_nodup_map (List.Nodup.of_append_right hnodup) hfield hother hname
      exact heq ▸ hvalue
  | @fieldItem α fields reading field place before after hfield h ih =>
    simp only [isUnambiguous, Bool.and_eq_true] at hunambiguous
    have hfields := fields.isUnambiguous_known hunambiguous.2 reading
    have hvalue := ih (hfields field (List.mem_of_getElem? hfield)) hread
    refine Fields.read_congr (Body.sameFor_replace (fun other hother => ?_) after)
    obtain rfl : field = other := Option.some.inj (hfield.symm.trans hother)
    exact hvalue
  | @variantItem α tag variants reading first t field place before after htag hfield h ih =>
    simp only [isUnambiguous, Bool.and_eq_true] at hunambiguous
    have hfields := variants.isUnambiguous_known hunambiguous.2 t
    have hvalue := ih (hfields field (List.mem_of_getElem? hfield)) hread
    simp only [Place.inside, Shape.read, htag, Option.bind_some]
    refine Variants.read_congr (Body.sameFor_replace (fun other hother => ?_) after)
    obtain rfl : field = other := Option.some.inj (hfield.symm.trans hother)
    exact hvalue
  | @data α cases reading field place hfield h ih =>
    simp only [isUnambiguous, Bool.and_eq_true, decide_eq_true_eq] at hunambiguous
    have hvalue := ih (cases.isUnambiguous_known hunambiguous.2 reading field hfield) hread
    apply Option.ext
    intro a
    simp only [Place.inside, Shape.read, cases.read_known_iff hunambiguous.1 reading _ a field hfield,
      hvalue]
  | assembled assembly h ih =>
    simp only [isUnambiguous] at hunambiguous
    have hshape := ih hunambiguous hread
    simp only [Place.inside, id, Shape.read, hshape]

/-- A whole value that is read has in the place what is read there. -/
theorem hasPart (h : shape.Interprets reading place) (hunambiguous : shape.isUnambiguous = true)
    {members : List (String × Json)} {a : α}
    (hread : shape.read reading (place.json members) = some a) : place.HasPart members a := by
  induction h with
  | top hkeyed => exact ⟨a, rfl, hread⟩
  | nullable h ih =>
    simp only [isUnambiguous, Bool.and_eq_true] at hunambiguous
    simp only [Place.inside, id] at hread
    rw [read_nullable_of_ne (h.json_ne_null members), Option.map_eq_some_iff] at hread
    obtain ⟨b, hb, rfl⟩ := hread
    exact (ih hunambiguous.2 hb).inside rfl
  | @item α item reading place before after h ih =>
    simp only [isUnambiguous] at hunambiguous
    have hitems := mapM_eq_some_iff.1 hread
    have hlt : before.length < (before ++ place.json members :: after).length := by simp
    have hlt' : before.length < a.length := hitems.length_eq ▸ hlt
    have hvalue : item.read reading (place.json members) = some a[before.length] := by
      simpa using hitems.get hlt hlt'
    refine (ih hunambiguous hvalue).inside ?_
    exact List.getElem?_eq_getElem hlt'
  | @member α shape reading field place hkeyed before after hfield h ih =>
    obtain ⟨-, hknown⟩ := known_insert hunambiguous hfield (place.json members)
    have htaken := takenFrom_of_read hkeyed hread field (hknown ▸ hfield)
    have hmember : (field.name, place.json members) ∈
        before ++ (field.name, place.json members) :: after := by simp
    obtain ⟨value, hget, hvalue⟩ := htaken.of_mem hmember
    exact (ih (isUnambiguous_known hunambiguous _ field hfield) hvalue).inside hget
  | @fieldItem α fields reading field place before after hfield h ih =>
    simp only [isUnambiguous, Bool.and_eq_true] at hunambiguous
    have hfields := fields.isUnambiguous_known hunambiguous.2 reading
    have hfits := (fields.read_eq_some_iff reading _ a).1 hread
    obtain ⟨value, hget, hvalue⟩ := hfits.takenAt hfield
    exact (ih (hfields field (List.mem_of_getElem? hfield)) hvalue).inside hget
  | @variantItem α tag variants reading first t field place before after htag hfield h ih =>
    simp only [isUnambiguous, Bool.and_eq_true] at hunambiguous
    have hfields := variants.isUnambiguous_known hunambiguous.2 t
    simp only [Place.inside, Shape.read, htag, Option.bind_some] at hread
    have hfits := ((variants.read_eq_some_iff t _ a).1 hread).2
    obtain ⟨value, hget, hvalue⟩ := hfits.takenAt hfield
    exact (ih (hfields field (List.mem_of_getElem? hfield)) hvalue).inside hget
  | @data α cases reading field place hfield h ih =>
    simp only [isUnambiguous, Bool.and_eq_true, decide_eq_true_eq] at hunambiguous
    obtain ⟨value, hget, hvalue⟩ :=
      (cases.read_known_iff hunambiguous.1 reading _ a field hfield).1 hread
    have hfields := cases.isUnambiguous_known hunambiguous.2 reading
    exact (ih (hfields field hfield) hvalue).inside hget
  | assembled assembly h ih =>
    simp only [isUnambiguous] at hunambiguous
    simp only [Place.inside, id, Shape.read, assembly.map_build_eq_some_iff] at hread
    exact (ih hunambiguous hread).inside rfl

end Shape.Interprets

end CellularRegistration
