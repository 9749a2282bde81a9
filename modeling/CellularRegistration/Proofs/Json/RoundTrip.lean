import CellularRegistration.Payload.Shape
import CellularRegistration.Proofs.Json.Layout
import CellularRegistration.Proofs.Json.Order
import CellularRegistration.Record.ServiceState

namespace CellularRegistration

theorem Json.occurrences_of_nodup {members : List (String × Json)}
    (hnodup : (members.map Prod.fst).Nodup) {member : String × Json} (hmember : member ∈ members) :
    occurrences members member.1 = [member.2] := by
  induction members with
  | nil => cases hmember
  | cons first rest ih =>
    obtain ⟨hfirst, hrest⟩ := List.nodup_cons.1 hnodup
    cases hmember with
    | head => rw [occurrences_cons_self, occurrences_eq_nil_iff.2 hfirst]
    | tail _ hmember =>
      have hne : first.1 ≠ member.1 := by
        intro heq
        exact hfirst (heq ▸ List.mem_map_of_mem hmember)
      rw [occurrences_cons_of_ne hne, ih hrest hmember]

/-- A member has the name of a field, and its value stands for the one that a structure has
there. -/
def KnownField.Carries {α : Type} (a : α) (field : KnownField α) (member : String × Json) : Prop :=
  member.1 = field.name ∧
    ∃ value, field.get a = some value ∧ field.shape.read field.reading member.2 = some value

theorem KnownField.carries_within {α β : Type} {part : β → Option α} {whole : β} {a : α}
    (hpart : part whole = some a) (field : KnownField α) (member : String × Json) :
    (field.within part).Carries whole member ↔ field.Carries a member := by
  simp only [Carries, within, hpart, Option.bind_some]

/-- The members carry a structure field by field, in order. -/
def Carry {α : Type} (known : List (KnownField α)) (a : α) (members : List (String × Json)) : Prop :=
  List.Forall₂ (KnownField.Carries a) known members

namespace Carry

variable {α β : Type} {known : List (KnownField α)} {a : α} {members : List (String × Json)}

theorem within {part : β → Option α} {whole : β} (hpart : part whole = some a)
    (h : Carry known a members) : Carry (known.map (.within part)) whole members := by
  rw [Carry, List.forall₂_map_left_iff]
  exact h.imp fun field member => (KnownField.carries_within hpart field member).2

theorem fits_positional (h : Carry known a members) :
    (Body.positional (members.map Prod.snd)).Fits known a := by
  induction h with
  | nil => simp [Body.Fits]
  | cons hfield _ ih =>
    obtain ⟨-, value, hget, hread⟩ := hfield
    exact (Body.fits_positional_cons ..).2 ⟨⟨value, hget, hread⟩, ih⟩

theorem fits_keyed (h : Carry known a members) {all : List (String × Json)}
    (hall : ∀ member ∈ members, Json.occurrences all member.1 = [member.2]) :
    (Body.keyed all).Fits known a := by
  induction h with
  | nil => simp [Body.Fits]
  | cons hfield _ ih =>
    obtain ⟨hname, value, hget, hread⟩ := hfield
    obtain ⟨hfirst, hrest⟩ := List.forall_mem_cons.1 hall
    rw [hname] at hfirst
    exact (Body.fits_keyed_cons ..).2 ⟨⟨value, hget, .inl ⟨_, hfirst, hread⟩⟩, ih hrest⟩

/-- A structure may be read from its members, whether they are arranged as an object or an array. -/
theorem fits_arrange (h : Carry known a members) (hnodup : (members.map Prod.fst).Nodup)
    (layout : Layout) :
    ∃ body, Body.ofJson? (layout.arrange members) = some body ∧ body.Fits known a := by
  unfold Layout.arrange
  split
  · exact ⟨_, rfl, h.fits_positional⟩
  · exact ⟨_, rfl, h.fits_keyed fun member hmember => Json.occurrences_of_nodup hnodup hmember⟩

end Carry

theorem Fields.map_fst_writeIn {α : Type} : (fields : Fields α) → (layout : Layout) → (a : α) →
    (fields.writeIn layout a).map Prod.fst = fields.names
  | .empty, _, () => by simp [Fields.writeIn, names]
  | .field name shape _ rest, layout, (a, b) => by
    simp [Fields.writeIn, names, rest.map_fst_writeIn layout b]
  | .assembled fields assembly, layout, b => by
    simp only [Fields.writeIn, names, fields.map_fst_writeIn]

/-- A structure is read from what its members are arranged to. -/
theorem Fields.read_arrange {α : Type} {fields : Fields α} {reading : Reading} {a : α}
    {layout : Layout} (hnodup : fields.names.Nodup)
    (hcarry : Carry (fields.known reading) a (fields.writeIn layout a)) (layout' : Layout) :
    (Shape.struct fields).read reading (layout'.arrange (fields.writeIn layout a)) = some a := by
  rw [← fields.map_fst_writeIn layout a] at hnodup
  obtain ⟨body, hbody, hfits⟩ := hcarry.fits_arrange hnodup layout'
  rw [Shape.read, hbody, Option.bind_some, fields.read_eq_some_iff]
  exact hfits

/-- The name of a variant and the members that are written carry a value of that variant. -/
structure Variants.Written {α : Type} (variants : Variants α) (tag : String) (a : α)
    (written : String × List (String × Json)) : Prop where
  name_mem : written.1 ∈ variants.names
  picked : variants.Picked (.name written.1) a
  carry : Carry (variants.known (.name written.1)) a written.2
  nodup : (tag :: written.2.map Prod.fst).Nodup

/-- A value is read from what the members of its variant are arranged to, with the tag before
them. -/
theorem Variants.Written.read_arrange {α : Type} {variants : Variants α} {tag : String} {a : α}
    {written : String × List (String × Json)} (h : variants.Written tag a written)
    (reading : Reading) (layout : Layout) :
    (Shape.tagged tag variants).read reading (layout.arrange ((tag, .str written.1) :: written.2)) =
      some a := by
  unfold Layout.arrange
  split
  · have hfits := h.carry.fits_positional
    simp only [List.map_cons, Shape.read, Tag.ofJson?, Option.bind_some]
    exact (variants.read_eq_some_iff ..).2 ⟨h.picked, hfits⟩
  · have hoccurrences : ∀ member ∈ (tag, Json.str written.1) :: written.2,
        Json.occurrences ((tag, .str written.1) :: written.2) member.1 = [member.2] :=
      fun member hmember => Json.occurrences_of_nodup (by simpa using h.nodup) hmember
    obtain ⟨htag, hmembers⟩ := List.forall_mem_cons.1 hoccurrences
    have hfits := h.carry.fits_keyed hmembers
    rw [Shape.read_tagged, Tag.inMembers?, htag]
    simp only [Tag.ofJson?, Option.bind_some]
    exact (variants.read_eq_some_iff ..).2 ⟨h.picked, hfits⟩

/-- The name of a case and its data, in a value that stands for a case. -/
def Json.case? : Json → Option (String × Json)
  | str name => some (name, null)
  | obj [(name, data)] => some (name, data)
  | _ => none

theorem Shape.read_union {α : Type} (cases : Cases α) (reading : Reading) (j : Json) :
    (union cases).read reading j = j.case?.bind fun (name, data) => cases.read reading name data := by
  match j with
  | .str _ | .obj [(_, _)] | .null | .bool _ | .int _ | .real _ | .arr _ | .obj []
  | .obj (_ :: _ :: _) => rfl

/-- A value stands for a case by its name and its data. -/
def Cases.ReadFrom {α : Type} (cases : Cases α) (reading : Reading) (a : α) (j : Json) : Prop :=
  ∃ name data, name ∈ cases.names ∧ j.case? = some (name, data) ∧
    cases.read reading name data = some a

/-- What stands for a later case is not taken for the first one. -/
theorem Cases.ReadFrom.skip {α β : Type} {rest : Cases β} {reading : Reading} {b : β} {j : Json}
    (h : rest.ReadFrom reading b j) {cases : Cases (α ⊕ β)} {first : String}
    (hnames : cases.names = first :: rest.names) (hfirst : first ∉ rest.names)
    (hread : ∀ name data, name ≠ first →
      cases.read reading name data = (rest.read reading name data).map .inr) :
    cases.ReadFrom reading (.inr b) j := by
  obtain ⟨name, data, hname, hcase, hrest⟩ := h
  have hne : name ≠ first := by
    rintro rfl
    exact hfirst hname
  have hmem : name ∈ cases.names := by
    rw [hnames]
    exact List.mem_cons_of_mem _ hname
  refine ⟨name, data, hmem, hcase, ?_⟩
  rw [hread name data hne, hrest, Option.map_some]

mutual

/-- A value of an unambiguous shape is read from what is written for it, in any layout. -/
theorem Shape.read_writeIn {α : Type} : (shape : Shape α) → shape.isUnambiguous = true →
    (reading : Reading) → (layout : Layout) → (a : α) →
    shape.read reading (shape.writeIn layout a) = some a
  | .flag, _, _, _, _ | .text, _, _, _, _ => by simp only [Shape.writeIn, Shape.read]
  | .int word, _, _, _, a => by
    simp only [Shape.writeIn, Shape.read]
    exact (word.ofInt?_eq_some_iff _ a).2 rfl
  | .keyword spelling, _, _, _, a => by
    simp only [Shape.writeIn, Shape.read, Json.bareName?, Option.bind_some]
    exact (spelling.find?_eq_some_iff _ a).2 rfl
  | .nullable item, _, _, _, none => by simp only [Shape.writeIn, Shape.read]
  | .nullable item, h, reading, layout, some a => by
    simp only [Shape.isUnambiguous, Bool.and_eq_true, Bool.not_eq_true'] at h
    simp only [Shape.writeIn]
    rw [Shape.read_nullable_of_ne (item.writeIn_ne_null h.1 layout a),
      item.read_writeIn h.2 reading layout a, Option.map_some]
  | .list item, h, reading, layout, as => by
    simp only [Shape.isUnambiguous] at h
    simp only [Shape.writeIn, Shape.read]
    rw [mapM_eq_some_iff, List.forall₂_map_left_iff, List.forall₂_same]
    exact fun a _ => item.read_writeIn h reading layout a
  | .struct fields, h, reading, layout, a => by
    simp only [Shape.isUnambiguous, Bool.and_eq_true, decide_eq_true_eq] at h
    simp only [Shape.writeIn]
    exact Fields.read_arrange h.1 (fields.carry_writeIn h.2 reading layout a) layout
  | .merged own inner, h, reading, layout, (a, b) => by
    simp only [Shape.isUnambiguous, Bool.and_eq_true, decide_eq_true_eq] at h
    obtain ⟨hnodup, hown, hinner⟩ := h
    rw [← own.map_fst_writeIn layout a, ← inner.map_fst_writeIn layout b,
      ← List.map_append] at hnodup
    obtain ⟨hmembers, hmembers'⟩ :=
      List.forall_mem_append.1 fun _ hmember => Json.occurrences_of_nodup hnodup hmember
    have hfits := (own.carry_writeIn hown reading layout a).fits_keyed hmembers
    have hfits' := (inner.carry_writeIn hinner .gathered layout b).fits_keyed hmembers'
    simp only [Shape.writeIn, Shape.read, Option.pure_def, Option.bind_eq_bind,
      bind_pair_eq_some_iff]
    exact ⟨(own.read_eq_some_iff ..).2 hfits, (inner.read_eq_some_iff ..).2 hfits'⟩
  | .tagged tag variants, h, reading, layout, a => by
    simp only [Shape.isUnambiguous, Bool.and_eq_true, decide_eq_true_eq] at h
    simp only [Shape.writeIn]
    exact (variants.written_writeIn tag h.1 h.2 layout a).read_arrange reading layout
  | .union cases, h, reading, layout, a => by
    simp only [Shape.isUnambiguous, Bool.and_eq_true, decide_eq_true_eq] at h
    obtain ⟨name, data, -, hcase, hread⟩ := cases.read_writeIn h.1 h.2 reading layout a
    rw [Shape.writeIn, Shape.read_union, hcase, Option.bind_some]
    exact hread
  | .assembled shape assembly, h, reading, layout, b => by
    simp only [Shape.isUnambiguous] at h
    simp only [Shape.writeIn, Shape.read, shape.read_writeIn h reading layout (assembly.view b),
      Option.map_some, assembly.build_view]

theorem Fields.carry_writeIn {α : Type} : (fields : Fields α) → fields.isUnambiguous = true →
    (reading : Reading) → (layout : Layout) → (a : α) →
    Carry (fields.known reading) a (fields.writeIn layout a)
  | .empty, _, _, _, () => by
    simp only [Fields.known, Fields.writeIn]
    exact .nil
  | .field name shape default rest, h, reading, layout, (a, b) => by
    simp only [Fields.isUnambiguous, Bool.and_eq_true] at h
    have hfield := shape.read_writeIn h.1 reading (layout.under name) a
    have hrest := rest.carry_writeIn h.2 reading layout b
    simp only [Fields.known, Fields.writeIn]
    exact .cons ⟨rfl, a, rfl, hfield⟩ (hrest.within (by rfl))
  | .assembled fields assembly, h, reading, layout, b => by
    simp only [Fields.isUnambiguous] at h
    have hfields := fields.carry_writeIn h reading layout (assembly.view b)
    simp only [Fields.known, Fields.writeIn]
    exact hfields.within (by rfl)

theorem Variants.written_writeIn {α : Type} : (variants : Variants α) → (tag : String) →
    variants.names.Nodup → variants.isUnambiguous tag = true → (layout : Layout) → (a : α) →
    variants.Written tag a (variants.writeIn layout a)
  | .empty, _, _, _, _, a => nomatch a
  | .variant name fields rest, tag, _, h, layout, .inl a => by
    simp only [Variants.isUnambiguous, Bool.and_eq_true, decide_eq_true_eq] at h
    obtain ⟨hnodup, hfields, -⟩ := h
    rw [← fields.map_fst_writeIn layout a] at hnodup
    have hcarry := fields.carry_writeIn hfields .gathered layout a
    simp only [Variants.writeIn]
    refine ⟨by simp [Variants.names], by simp [Variants.Picked, Tag.picks], ?_, hnodup⟩
    simp only [Variants.known, Tag.picks, beq_self_eq_true, if_true]
    exact hcarry.within (by rfl)
  | .variant name fields rest, tag, hnames, h, layout, .inr b => by
    simp only [Variants.isUnambiguous, Bool.and_eq_true] at h
    obtain ⟨hname, hnames⟩ := List.nodup_cons.1 hnames
    have hrest := rest.written_writeIn tag hnames h.2.2 layout b
    simp only [Variants.writeIn]
    -- The tag names one of the other variants, so it does not pick this one.
    have hpicks : (Tag.name (rest.writeIn layout b).1).picks name = false := by
      simp only [Tag.picks, beq_eq_false_iff_ne]
      rintro rfl
      exact hname hrest.name_mem
    refine ⟨by simp [Variants.names, hrest.name_mem], ⟨hpicks, hrest.picked⟩, ?_, hrest.nodup⟩
    simp only [Variants.known, hpicks, Bool.false_eq_true, if_false]
    exact hrest.carry.within (by rfl)
  | .assembled variants assembly, tag, hnames, h, layout, b => by
    simp only [Variants.isUnambiguous] at h
    have hvariants := variants.written_writeIn tag hnames h layout (assembly.view b)
    simp only [Variants.writeIn]
    exact ⟨hvariants.name_mem, hvariants.picked, hvariants.carry.within (by rfl), hvariants.nodup⟩

theorem Cases.read_writeIn {α : Type} : (cases : Cases α) → cases.names.Nodup →
    cases.isUnambiguous = true → (reading : Reading) → (layout : Layout) → (a : α) →
    cases.ReadFrom reading a (cases.writeIn layout a)
  | .empty, _, _, _, _, a => nomatch a
  | .bare name rest, _, _, _, _, .inl () => by
    refine ⟨name, .null, by simp [Cases.names], by simp [Cases.writeIn, Json.case?], ?_⟩
    simp [Cases.read, Json.isNothing]
  | .bare first rest, hnames, h, reading, layout, .inr b => by
    simp only [Cases.isUnambiguous] at h
    obtain ⟨hfirst, hnames⟩ := List.nodup_cons.1 hnames
    simp only [Cases.writeIn]
    refine (rest.read_writeIn hnames h reading layout b).skip rfl hfirst fun name data hne => ?_
    simp [Cases.read, hne]
  | .data name fields rest, _, h, reading, layout, .inl a => by
    simp only [Cases.isUnambiguous, Bool.and_eq_true, decide_eq_true_eq] at h
    obtain ⟨hnodup, hfields, -⟩ := h
    have hdata := Fields.read_arrange hnodup
      (fields.carry_writeIn hfields reading (layout.under name) a) (layout.under name)
    refine ⟨name, (layout.under name).arrange (fields.writeIn (layout.under name) a),
      by simp [Cases.names], by simp only [Cases.writeIn, Json.case?], ?_⟩
    rw [Cases.read_data, hdata]
    simp
  | .data first fields rest, hnames, h, reading, layout, .inr b => by
    simp only [Cases.isUnambiguous, Bool.and_eq_true] at h
    obtain ⟨hfirst, hnames⟩ := List.nodup_cons.1 hnames
    simp only [Cases.writeIn]
    refine (rest.read_writeIn hnames h.2.2 reading layout b).skip rfl hfirst fun name data hne => ?_
    simp [Cases.read, hne]
  | .assembled cases assembly, hnames, h, reading, layout, b => by
    simp only [Cases.isUnambiguous] at h
    obtain ⟨name, data, hname, hcase, hread⟩ :=
      cases.read_writeIn hnames h reading layout (assembly.view b)
    refine ⟨name, data, hname, by simpa only [Cases.writeIn] using hcase, ?_⟩
    rw [Cases.read, assembly.map_build_eq_some_iff]
    exact hread

end

/-- Every value is read again from its JSON, and from the JSON in which some structures stand as
arrays and the members of objects have any order. -/
structure Shape.RoundTrips {α : Type} (shape : Shape α) : Prop where
  decode_write : ∀ a, shape.decode (shape.write a) = some a
  decode_arranged : ∀ (layout : Layout) (a : α) (j : Json),
    Json.Reordered (shape.writeIn layout a) j → shape.decode j = some a

theorem Shape.roundTrips_of_isUnambiguous {α : Type} {shape : Shape α}
    (h : shape.isUnambiguous = true) : shape.RoundTrips where
  decode_write a := by
    rw [← shape.writeIn_keyed a]
    exact shape.read_writeIn h .direct .keyed a
  decode_arranged layout a j hreordered := by
    rw [← shape.decode_reordered hreordered]
    exact shape.read_writeIn h .direct layout a

theorem Payload.isUnambiguous_shape : shape.isUnambiguous = true := by decide

theorem ReportedCell.isUnambiguous_shape : shape.isUnambiguous = true := by decide

theorem DetailedCell.isUnambiguous_shape : shape.isUnambiguous = true := by decide

theorem CellIdentity.isUnambiguous_shape : shape.isUnambiguous = true := by decide

theorem RegistrationRecord.isUnambiguous_shape : shape.isUnambiguous = true := by decide

theorem ServiceState.isUnambiguous_shape : shape.isUnambiguous = true := by decide

/-- Whatever is written for a report, a cell, a record or a service state stands for it and for
nothing else. -/
theorem decode_undoes_write :
    Payload.shape.RoundTrips ∧ ReportedCell.shape.RoundTrips ∧ DetailedCell.shape.RoundTrips ∧
      CellIdentity.shape.RoundTrips ∧ RegistrationRecord.shape.RoundTrips ∧
      ServiceState.shape.RoundTrips :=
  ⟨Shape.roundTrips_of_isUnambiguous Payload.isUnambiguous_shape,
    Shape.roundTrips_of_isUnambiguous ReportedCell.isUnambiguous_shape,
    Shape.roundTrips_of_isUnambiguous DetailedCell.isUnambiguous_shape,
    Shape.roundTrips_of_isUnambiguous CellIdentity.isUnambiguous_shape,
    Shape.roundTrips_of_isUnambiguous RegistrationRecord.isUnambiguous_shape,
    Shape.roundTrips_of_isUnambiguous ServiceState.isUnambiguous_shape⟩

/-- A cell that stands as an array has its tag before its fields. -/
example :
    ReportedCell.shape.writeIn (fun _ => true) (.tdscdma "460" "00" ⟨1, 2, 3⟩) =
      .arr [.str "tdscdma", .str "460", .str "00", .int 1, .int 2, .int 3] := by
  rfl

end CellularRegistration
