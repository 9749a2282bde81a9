import CellularRegistration.Json.Decoding
import Mathlib.Data.List.Forall2

namespace CellularRegistration

namespace Json

variable {members members' : List (String × Json)} {name : String}

theorem occurrences_append (members members' : List (String × Json)) (name : String) :
    occurrences (members ++ members') name =
      occurrences members name ++ occurrences members' name := by
  simp only [occurrences, List.filter_append, List.map_append]

@[simp]
theorem occurrences_cons_self (name : String) (j : Json) (members : List (String × Json)) :
    occurrences ((name, j) :: members) name = j :: occurrences members name := by
  simp [occurrences]

theorem occurrences_cons_of_ne {key : String} (hne : key ≠ name) (j : Json)
    (members : List (String × Json)) :
    occurrences ((key, j) :: members) name = occurrences members name := by
  simp [occurrences, hne]

theorem occurrences_insert_of_ne {key : String} (hne : key ≠ name) (j : Json)
    (before after : List (String × Json)) :
    occurrences (before ++ (key, j) :: after) name = occurrences (before ++ after) name := by
  rw [occurrences_append, occurrences_append, occurrences_cons_of_ne hne]

theorem occurrences_eq_nil_iff : occurrences members name = [] ↔ name ∉ members.map Prod.fst := by
  simp only [occurrences, List.map_eq_nil_iff, List.filter_eq_nil_iff, beq_iff_eq, List.mem_map,
    not_exists, not_and]

theorem occurrences_perm (h : members.Perm members') (name : String) :
    (occurrences members name).Perm (occurrences members' name) :=
  (h.filter _).map _

end Json

/-- A field of some structure, as the reader of the structure knows it. -/
structure KnownField (α : Type) where
  {Value : Type}
  name : String
  shape : Shape Value
  /-- How the field's value comes to its reader. -/
  reading : Reading
  default : Option Value
  /-- The field's value in a structure that has the field. -/
  get : α → Option Value

namespace KnownField

variable {α β : Type}

/-- A field of a part is a field of the whole. -/
def within (part : β → Option α) (field : KnownField α) : KnownField β :=
  { field with get := fun whole => (part whole).bind field.get }

/-- A structure has the value of a field from the members of an object: the value of the one member
of this name; if there is none, the value by default or the null of a field that may be null. -/
def TakenFrom (field : KnownField α) (members : List (String × Json)) (a : α) : Prop :=
  ∃ value, field.get a = some value ∧
    ((∃ j, Json.occurrences members field.name = [j] ∧
        field.shape.read field.reading j = some value) ∨
      Json.occurrences members field.name = [] ∧
        (field.default = some value ∨ field.default = none ∧ field.shape.absent? = some value))

/-- A structure has the value of a field from an item of an array, or by default if there is no
item. -/
def TakenAt (field : KnownField α) (item : Option Json) (a : α) : Prop :=
  ∃ value, field.get a = some value ∧
    match item with
    | some j => field.shape.read field.reading j = some value
    | none => field.default = some value

theorem takenFrom_within {part : β → Option α} {whole : β} {a : α} (hpart : part whole = some a)
    (field : KnownField α) (members : List (String × Json)) :
    (field.within part).TakenFrom members whole ↔ field.TakenFrom members a := by
  simp only [TakenFrom, within, hpart, Option.bind_some]

theorem takenAt_within {part : β → Option α} {whole : β} {a : α} (hpart : part whole = some a)
    (field : KnownField α) (item : Option Json) :
    (field.within part).TakenAt item whole ↔ field.TakenAt item a := by
  simp only [TakenAt, within, hpart, Option.bind_some]

end KnownField

/-- The fields of a structure, in order. -/
def Fields.known {α : Type} : Fields α → Reading → List (KnownField α)
  | .empty, _ => []
  | .field name shape default rest, reading =>
    ⟨name, shape, reading, default, fun (a, _) => some a⟩ ::
      (rest.known reading).map (.within fun (_, b) => some b)
  | .assembled fields assembly, reading =>
    (fields.known reading).map (.within fun b => some (assembly.view b))

/-- The fields of the variant that a tag picks. -/
def Variants.known {α : Type} : Variants α → Tag → List (KnownField α)
  | .empty, _ => []
  | .variant name fields rest, tag =>
    if tag.picks name then (fields.known .gathered).map (.within Sum.getLeft?)
    else (rest.known tag.next).map (.within Sum.getRight?)
  | .assembled variants assembly, tag =>
    (variants.known tag).map (.within fun b => some (assembly.view b))

/-- A value is of the variant that a tag picks. -/
def Variants.Picked {α : Type} : Variants α → Tag → α → Prop
  | .empty, _, a => nomatch a
  | .variant name _ _, tag, .inl _ => tag.picks name = true
  | .variant name _ rest, tag, .inr b => tag.picks name = false ∧ rest.Picked tag.next b
  | .assembled variants assembly, tag, b => variants.Picked tag (assembly.view b)

/-- A structure has the values of its fields from a body. -/
def Body.Fits {α : Type} (body : Body) (known : List (KnownField α)) (a : α) : Prop :=
  match body with
  | .keyed members => ∀ field ∈ known, field.TakenFrom members a
  | .positional items =>
    items.length ≤ known.length ∧
      ∀ (i : Nat) (field : KnownField α), known[i]? = some field → field.TakenAt items[i]? a

theorem Body.fits_map_within {α β : Type} {part : β → Option α} {whole : β} {a : α}
    (hpart : part whole = some a) (body : Body) (known : List (KnownField α)) :
    body.Fits (known.map (.within part)) whole ↔ body.Fits known a := by
  cases body with
  | keyed members => simp only [Fits, List.forall_mem_map, KnownField.takenFrom_within hpart]
  | positional items =>
    simp only [Fits, List.length_map, List.getElem?_map, Option.map_eq_some_iff,
      forall_exists_index, and_imp, forall_apply_eq_imp_iff₂, KnownField.takenAt_within hpart]

/-- A whole is built from the parts that are its view. -/
theorem Assembly.map_build_eq_some_iff {α β : Type} (assembly : Assembly α β) {parts : Option α}
    {whole : β} : parts.map assembly.build = some whole ↔ parts = some (assembly.view whole) := by
  rw [Option.map_eq_some_iff]
  constructor
  · rintro ⟨a, ha, rfl⟩
    rwa [assembly.view_build]
  · intro h
    exact ⟨_, h, assembly.build_view whole⟩

theorem Body.fits_keyed_cons {α : Type} (members : List (String × Json)) (field : KnownField α)
    (known : List (KnownField α)) (a : α) :
    (Body.keyed members).Fits (field :: known) a ↔
      field.TakenFrom members a ∧ (Body.keyed members).Fits known a :=
  List.forall_mem_cons

theorem Body.fits_positional_cons {α : Type} (items : List Json) (field : KnownField α)
    (known : List (KnownField α)) (a : α) :
    (Body.positional items).Fits (field :: known) a ↔
      field.TakenAt items.head? a ∧ (Body.positional items.tail).Fits known a := by
  simp only [Fits]
  constructor
  · rintro ⟨hlength, hfields⟩
    refine ⟨?_, ?_, ?_⟩
    · simpa [List.head?_eq_getElem?] using hfields 0 field rfl
    · rw [List.length_tail]
      exact Nat.sub_le_of_le_add hlength
    · intro i other hother
      simpa using hfields (i + 1) other hother
  · rintro ⟨hfirst, hlength, hfields⟩
    refine ⟨?_, ?_⟩
    · rw [List.length_tail] at hlength
      exact Nat.le_add_of_sub_le hlength
    · intro i other hother
      cases i with
      | zero =>
        obtain rfl : field = other := by simpa using hother
        simpa [List.head?_eq_getElem?] using hfirst
      | succ i => simpa using hfields i other hother

theorem bind_pair_eq_some_iff {α β : Type} {first : Option α} {rest : Option β} {a : α} {b : β} :
    (first.bind fun a => rest.bind fun b => some (a, b)) = some (a, b) ↔
      first = some a ∧ rest = some b := by
  simp [Option.bind_eq_some_iff]

/-- The structure that is read from a body is the one that has the values of all its fields from
it. -/
theorem Fields.read_eq_some_iff {α : Type} : (fields : Fields α) → (reading : Reading) →
    (body : Body) → (a : α) →
    (fields.read reading body = some a ↔ body.Fits (fields.known reading) a)
  | .empty, _, .keyed _, () => by simp [read, known, Body.Fits]
  | .empty, _, .positional [], () => by simp [read, known, Body.Fits]
  | .empty, _, .positional (_ :: _), () => by simp [read, known, Body.Fits]
  | .field name shape default rest, reading, .keyed members, (a, b) => by
    have hrest := rest.read_eq_some_iff reading (.keyed members) b
    rw [known, Body.fits_keyed_cons, Body.fits_map_within (by rfl), ← hrest]
    simp only [KnownField.TakenFrom, Option.some.injEq, exists_eq_left']
    match hoccurrences : Json.occurrences members name with
    | [] => simp [read, hoccurrences, bind_pair_eq_some_iff, Option.or_eq_some_iff]
    | [j] => simp [read, hoccurrences, bind_pair_eq_some_iff]
    | _ :: _ :: _ => simp [read, hoccurrences]
  | .field name shape default rest, reading, .positional [], (a, b) => by
    have hrest := rest.read_eq_some_iff reading (.positional []) b
    rw [known, Body.fits_positional_cons, Body.fits_map_within (by rfl), List.tail_nil, ← hrest]
    simp [read, bind_pair_eq_some_iff, KnownField.TakenAt]
  | .field name shape default rest, reading, .positional (j :: items), (a, b) => by
    have hrest := rest.read_eq_some_iff reading (.positional items) b
    rw [known, Body.fits_positional_cons, Body.fits_map_within (by rfl), List.tail_cons, ← hrest]
    simp [read, bind_pair_eq_some_iff, KnownField.TakenAt]
  | .assembled fields assembly, reading, body, b => by
    have hfields := fields.read_eq_some_iff reading body (assembly.view b)
    rw [known, Body.fits_map_within (by rfl), ← hfields, read, assembly.map_build_eq_some_iff]

/-- The value that is read under a tag is the one of the variant picked that has the values of all
its fields from the body. -/
theorem Variants.read_eq_some_iff {α : Type} : (variants : Variants α) → (tag : Tag) →
    (body : Body) → (a : α) →
    (variants.read tag body = some a ↔ variants.Picked tag a ∧ body.Fits (variants.known tag) a)
  | .empty, _, _, a => nomatch a
  | .variant name fields rest, tag, body, .inl a => by
    cases hpicks : tag.picks name with
    | true =>
      have hfields := fields.read_eq_some_iff .gathered body a
      simp [read, Picked, known, hpicks, Body.fits_map_within, hfields]
    | false => simp [read, Picked, hpicks]
  | .variant name fields rest, tag, body, .inr b => by
    cases hpicks : tag.picks name with
    | true => simp [read, Picked, hpicks]
    | false =>
      have hrest := rest.read_eq_some_iff tag.next body b
      simp [read, Picked, known, hpicks, Body.fits_map_within, hrest]
  | .assembled variants assembly, tag, body, b => by
    have hvariants := variants.read_eq_some_iff tag body (assembly.view b)
    rw [known, Body.fits_map_within (by rfl), Picked, ← hvariants, read,
      assembly.map_build_eq_some_iff]

/-- The occurrences of a name in two objects say the same, by some standard, to a reader that takes
one at most. -/
inductive Json.Agree (same : Json → Json → Prop) : List Json → List Json → Prop where
  | absent : Agree same [] []
  | once {j j' : Json} (h : same j j') : Agree same [j] [j']
  | repeated (j k j' k' : Json) (js js' : List Json) : Agree same (j :: k :: js) (j' :: k' :: js')

namespace Json.Agree

variable {same : Json → Json → Prop}

theorem of_perm (hrefl : ∀ j, same j j) {js js' : List Json} (h : js.Perm js') :
    Agree same js js' := by
  match js, js', h.length_eq with
  | [], [], _ => exact .absent
  | [j], [j'], _ =>
    obtain rfl : j = j' := by simpa using h
    exact .once (hrefl j)
  | _ :: _ :: _, _ :: _ :: _, _ => exact .repeated ..

/-- One occurrence among others is replaced. -/
theorem replace {j j' : Json} (h : same j j') (before after : List Json) :
    Agree same (before ++ j :: after) (before ++ j' :: after) := by
  match before, after with
  | [], [] => exact .once h
  | [], _ :: _ => exact .repeated ..
  | [_], _ => exact .repeated ..
  | _ :: _ :: _, _ => exact .repeated ..

/-- One member among others is replaced by another one of the same name. -/
theorem replace_member (hrefl : ∀ j, same j j) {key name : String} {j j' : Json}
    (h : key = name → same j j') (before after : List (String × Json)) :
    Agree same (occurrences (before ++ (key, j) :: after) name)
      (occurrences (before ++ (key, j') :: after) name) := by
  by_cases hname : key = name
  · subst hname
    simp only [occurrences_append, occurrences_cons_self]
    exact .replace (h rfl) _ _
  · simp only [occurrences_insert_of_ne hname]
    exact .of_perm hrefl (.refl _)

theorem mono {other : Json → Json → Prop} (himp : ∀ j j', same j j' → other j j')
    {js js' : List Json} (h : Agree same js js') : Agree other js js' := by
  cases h with
  | absent => exact .absent
  | once h => exact .once (himp _ _ h)
  | repeated => exact .repeated ..

end Json.Agree

/-- Two values mean the same for a field. -/
def KnownField.Same {α : Type} (field : KnownField α) (j j' : Json) : Prop :=
  field.shape.read field.reading j = field.shape.read field.reading j'

theorem KnownField.same_refl {α : Type} (field : KnownField α) (j : Json) : field.Same j j :=
  rfl

theorem KnownField.takenFrom_congr {α : Type} {field : KnownField α}
    {members members' : List (String × Json)}
    (h : Json.Agree field.Same (Json.occurrences members field.name)
      (Json.occurrences members' field.name)) (a : α) :
    field.TakenFrom members a ↔ field.TakenFrom members' a := by
  unfold TakenFrom
  generalize Json.occurrences members field.name = js at h ⊢
  generalize Json.occurrences members' field.name = js' at h ⊢
  cases h with
  | absent => rfl
  | once h =>
    simp only [Same] at h
    simp [h]
  | repeated => simp

theorem KnownField.takenAt_congr {α : Type} {field : KnownField α} {item item' : Option Json}
    (h : item.map (field.shape.read field.reading) = item'.map (field.shape.read field.reading))
    (a : α) : field.TakenAt item a ↔ field.TakenAt item' a := by
  unfold TakenAt
  match item, item', h with
  | none, none, _ => rfl
  | some j, some j', h =>
    simp only [Option.map_some, Option.some.injEq] at h
    simp only [h]

/-- Two bodies of one kind mean the same for some fields. -/
def Body.SameFor {α : Type} (known : List (KnownField α)) : Body → Body → Prop
  | .keyed members, .keyed members' =>
    ∀ field ∈ known, Json.Agree field.Same (Json.occurrences members field.name)
      (Json.occurrences members' field.name)
  | .positional items, .positional items' =>
    items.length = items'.length ∧ ∀ (i : Nat) (field : KnownField α), known[i]? = some field →
      items[i]?.map (field.shape.read field.reading) =
        items'[i]?.map (field.shape.read field.reading)
  | _, _ => False

/-- One item among others is replaced by another one that means the same for its field. -/
theorem Body.sameFor_replace {α : Type} {known : List (KnownField α)} {before : List Json}
    {j j' : Json} (h : ∀ field, known[before.length]? = some field → field.Same j j')
    (after : List Json) :
    SameFor known (.positional (before ++ j :: after)) (.positional (before ++ j' :: after)) := by
  refine ⟨by simp, fun i field hfield => ?_⟩
  by_cases hi : i < before.length
  · rw [List.getElem?_append_left hi, List.getElem?_append_left hi]
  · have hle : before.length ≤ i := Nat.le_of_not_lt hi
    rw [List.getElem?_append_right hle, List.getElem?_append_right hle]
    obtain ⟨k, rfl⟩ : ∃ k, i = before.length + k := ⟨i - before.length, by omega⟩
    rw [Nat.add_sub_cancel_left]
    cases k with
    | zero =>
      have hsame := h field hfield
      simp only [KnownField.Same] at hsame
      simp only [List.getElem?_cons_zero, Option.map_some, hsame]
    | succ k => rfl

theorem Body.SameFor.fits_iff {α : Type} {known : List (KnownField α)} {body body' : Body}
    (h : SameFor known body body') (a : α) : body.Fits known a ↔ body'.Fits known a := by
  match body, body', h with
  | .keyed members, .keyed members', h =>
    exact forall₂_congr fun field hfield => KnownField.takenFrom_congr (h field hfield) a
  | .positional items, .positional items', ⟨hlength, hitems⟩ =>
    simp only [Fits, hlength]
    refine and_congr_right fun _ => forall₃_congr fun i field hfield => ?_
    exact KnownField.takenAt_congr (hitems i field hfield) a

theorem Fields.read_congr {α : Type} {fields : Fields α} {reading : Reading} {body body' : Body}
    (h : Body.SameFor (fields.known reading) body body') :
    fields.read reading body = fields.read reading body' := by
  apply Option.ext
  intro a
  rw [fields.read_eq_some_iff, fields.read_eq_some_iff, h.fits_iff]

theorem Variants.read_congr {α : Type} {variants : Variants α} {tag : Tag} {body body' : Body}
    (h : Body.SameFor (variants.known tag) body body') :
    variants.read tag body = variants.read tag body' := by
  apply Option.ext
  intro a
  rw [variants.read_eq_some_iff, variants.read_eq_some_iff, h.fits_iff]

/-- The tag that an object holds under a name, if it holds one and only one. -/
def Tag.inMembers? (reading : Reading) (name : String) (members : List (String × Json)) :
    Option Tag :=
  match Json.occurrences members name with
  | [j] => ofJson? reading j
  | _ => none

theorem Tag.inMembers?_congr {reading : Reading} {name : String}
    {members members' : List (String × Json)}
    (h : Json.Agree (fun j j' => ofJson? reading j = ofJson? reading j')
      (Json.occurrences members name) (Json.occurrences members' name)) :
    inMembers? reading name members = inMembers? reading name members' := by
  unfold inMembers?
  generalize Json.occurrences members name = js at h ⊢
  generalize Json.occurrences members' name = js' at h ⊢
  cases h with
  | absent => rfl
  | once h => exact h
  | repeated => rfl

namespace Shape

/-- The shapes of values that stand as objects with known members. -/
def isKeyed {α : Type} : Shape α → Bool
  | .struct _ | .merged _ _ | .tagged _ _ => true
  | _ => false

/-- The tag of a sum whose tag stands beside the fields. -/
def tag? {α : Type} : Shape α → Option String
  | .tagged tag _ => some tag
  | _ => none

/-- The fields that the reader of an object knows. Those of a sum are those of the variant that the
tag in the object picks. -/
def known {α : Type} : Shape α → Reading → List (String × Json) → List (KnownField α)
  | .struct fields, reading, _ => fields.known reading
  | .merged own inner, reading, _ =>
    (own.known reading).map (.within fun (a, _) => some a) ++
      (inner.known .gathered).map (.within fun (_, b) => some b)
  | .tagged tag variants, reading, members =>
    ((Tag.inMembers? reading tag members).map variants.known).getD []
  | _, _, _ => []

theorem read_nullable_of_ne {α : Type} {j : Json} (hj : j ≠ .null) (item : Shape α)
    (reading : Reading) : (nullable item).read reading j = (item.read reading j).map some := by
  cases j with
  | null => exact absurd rfl hj
  | _ => rfl

theorem read_tagged {α : Type} (tag : String) (variants : Variants α) (reading : Reading)
    (members : List (String × Json)) :
    (tagged tag variants).read reading (.obj members) =
      (Tag.inMembers? reading tag members).bind fun t => variants.read t (.keyed members) := by
  simp only [read, Tag.inMembers?]
  obtain _ | ⟨j, _ | ⟨k, js⟩⟩ := Json.occurrences members tag <;> rfl

theorem takenFrom_of_read {α : Type} {shape : Shape α} (hkeyed : shape.isKeyed = true)
    {reading : Reading} {members : List (String × Json)} {a : α}
    (h : shape.read reading (.obj members) = some a) :
    ∀ field ∈ shape.known reading members, field.TakenFrom members a := by
  cases shape with
  | struct fields => exact (fields.read_eq_some_iff reading (.keyed members) a).1 h
  | merged own inner =>
    obtain ⟨a, b⟩ := a
    simp only [read, Option.pure_def, Option.bind_eq_bind, bind_pair_eq_some_iff] at h
    have hown := (own.read_eq_some_iff reading (.keyed members) a).1 h.1
    have hinner := (inner.read_eq_some_iff .gathered (.keyed members) b).1 h.2
    exact List.forall_mem_append.2
      ⟨(Body.fits_map_within (by rfl) _ _).2 hown, (Body.fits_map_within (by rfl) _ _).2 hinner⟩
  | tagged tag variants =>
    rw [read_tagged] at h
    obtain ⟨t, htag, hread⟩ := Option.bind_eq_some_iff.1 h
    simp only [known, htag, Option.map_some, Option.getD_some]
    exact ((variants.read_eq_some_iff t (.keyed members) a).1 hread).2
  | _ => cases hkeyed

/-- Two objects with the same tag that say the same of each known field are read alike. -/
theorem read_obj_congr {α : Type} {shape : Shape α} (hkeyed : shape.isKeyed = true)
    {reading : Reading} {members members' : List (String × Json)}
    (htag : ∀ tag, shape.tag? = some tag →
      Tag.inMembers? reading tag members = Tag.inMembers? reading tag members')
    (hfields : ∀ field ∈ shape.known reading members, Json.Agree field.Same
      (Json.occurrences members field.name) (Json.occurrences members' field.name)) :
    shape.read reading (.obj members) = shape.read reading (.obj members') := by
  cases shape with
  | struct fields => exact Fields.read_congr hfields
  | merged own inner =>
    obtain ⟨hown, hinner⟩ := List.forall_mem_append.1 hfields
    have hread : own.read reading (.keyed members) = own.read reading (.keyed members') :=
      Fields.read_congr (List.forall_mem_map.1 hown)
    have hread' : inner.read .gathered (.keyed members) = inner.read .gathered (.keyed members') :=
      Fields.read_congr (List.forall_mem_map.1 hinner)
    simp only [read, hread, hread']
  | tagged tag variants =>
    rw [read_tagged, read_tagged, ← htag tag rfl]
    cases ht : Tag.inMembers? reading tag members with
    | none => rfl
    | some t =>
      simp only [known, ht, Option.map_some, Option.getD_some] at hfields
      exact Variants.read_congr hfields
  | _ => cases hkeyed

end Shape

theorem mapM_eq_some_iff {α β : Type} {read : α → Option β} {js : List α} {as : List β} :
    js.mapM read = some as ↔ List.Forall₂ (fun j a => read j = some a) js as := by
  induction js generalizing as with
  | nil => simp [eq_comm]
  | cons j js ih =>
    simp only [List.mapM_cons, Option.pure_def, Option.bind_eq_bind, Option.bind_eq_some_iff, ih,
      List.forall₂_cons_left_iff, Option.some.injEq]
    constructor
    · rintro ⟨a, ha, as, has, rfl⟩
      exact ⟨a, as, ha, has, rfl⟩
    · rintro ⟨a, as, ha, has, rfl⟩
      exact ⟨a, ha, as, has, rfl⟩

/-- The data of a case are read like a structure. -/
theorem Cases.read_data {α β : Type} (first : String) (fields : Fields α) (rest : Cases β)
    (reading : Reading) (name : String) (data : Json) :
    (Cases.data first fields rest).read reading name data =
      if name == first then ((Shape.struct fields).read reading data).map .inl
      else (rest.read reading name data).map .inr := by
  simp only [read, Shape.read, Option.map_bind]
  rfl

end CellularRegistration
