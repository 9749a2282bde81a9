import CellularRegistration.Family.Table
import CellularRegistration.Proofs.Family.Entry

namespace CellularRegistration

namespace FamilyTable

theorem getElem?_snoc_eq_some_iff {families : List Family} {last family : Family} {i : Nat} :
    (families ++ [last])[i]? = some family ↔
      families[i]? = some family ∨ i = families.length ∧ family = last := by
  rw [List.getElem?_append]
  split <;> grind

/-- What holds of the empty table, and of a table with one more family of technologies that are not
claimed yet, holds of every table that is built from groups. -/
theorem build_induction {P : FamilyTable → Prop} (hempty : P empty)
    (hadd : ∀ (table : FamilyTable) (members : List RadioTechnology), members.Nodup →
      (∀ technology ∈ members, technology ∉ table.claimed) → P table → P (table.addFamily members))
    (groups : List String) : P (build groups).1 := by
  have hgroup : ∀ table group, P table → P (addGroup table group).1 := by
    intro table group htable
    simp only [addGroup]
    split
    · exact htable
    · have haccepts := Family.accepts_takeMembers table.claimed (Family.entries group)
      exact hadd _ _ haccepts.nodup haccepts.not_claimed htable
  have hgroups : ∀ table, P table → P (addGroups table groups).1 := by
    induction groups with
    | nil => exact fun table htable => htable
    | cons group groups ih => exact fun table htable => ih _ (hgroup table group htable)
  exact hgroups empty hempty

/-- The families and the index of a table belong together. -/
structure WellFormed (table : FamilyTable) : Prop where
  id_eq : ∀ i (family : Family), table.families[i]? = some family → family.id = i
  members_ne_nil : ∀ family ∈ table.families, family.members ≠ []
  members_nodup : ∀ family ∈ table.families, family.members.Nodup
  familyId_eq_some_iff : ∀ technology i, table.familyId technology = some i ↔
    ∃ family, table.families[i]? = some family ∧ technology ∈ family.members

theorem wellFormed_empty : empty.WellFormed where
  id_eq := by simp [empty]
  members_ne_nil := by simp [empty]
  members_nodup := by simp [empty]
  familyId_eq_some_iff := by simp [empty, familyId]

theorem mem_claimed_iff {table : FamilyTable} {technology : RadioTechnology} :
    technology ∈ table.claimed ↔ table.familyId technology ≠ none := by
  simp [claimed, familyId]

theorem lookup_map_pair (members : List RadioTechnology) (id : Nat) (technology : RadioTechnology) :
    (members.map fun member => (member, id)).lookup technology =
      if technology ∈ members then some id else none := by
  induction members with
  | nil => rfl
  | cons member members ih =>
    rw [List.map_cons, List.lookup_cons, ih]
    grind

/-- A new family is found by its members, unless they were found before. -/
theorem familyId_addFamily (table : FamilyTable) (members : List RadioTechnology)
    (technology : RadioTechnology) :
    (table.addFamily members).familyId technology = (table.familyId technology).or
      (if technology ∈ members then some table.families.length else none) := by
  unfold addFamily
  split
  · simp [*]
  · simp only [familyId, List.lookup_append, lookup_map_pair]

theorem families_addFamily (table : FamilyTable) {members : List RadioTechnology}
    (hmembers : members ≠ []) :
    (table.addFamily members).families = table.families ++ [⟨table.families.length, members⟩] := by
  rw [addFamily, if_neg hmembers]

namespace WellFormed

variable {table : FamilyTable}

theorem addFamily (h : table.WellFormed) {members : List RadioTechnology}
    (hnodup : members.Nodup) (hfresh : ∀ technology ∈ members, technology ∉ table.claimed) :
    (table.addFamily members).WellFormed := by
  by_cases hmembers : members = []
  · rwa [FamilyTable.addFamily, if_pos hmembers]
  have hfamilies := families_addFamily table hmembers
  refine ⟨?_, ?_, ?_, ?_⟩
  · intro i family hget
    rw [hfamilies, getElem?_snoc_eq_some_iff] at hget
    obtain hget | ⟨rfl, rfl⟩ := hget
    · exact h.id_eq i family hget
    · rfl
  · intro family hmem
    rw [hfamilies, List.mem_append, List.mem_singleton] at hmem
    obtain hmem | rfl := hmem
    · exact h.members_ne_nil family hmem
    · exact hmembers
  · intro family hmem
    rw [hfamilies, List.mem_append, List.mem_singleton] at hmem
    obtain hmem | rfl := hmem
    · exact h.members_nodup family hmem
    · exact hnodup
  · intro technology i
    have hbefore := h.familyId_eq_some_iff technology
    simp only [familyId_addFamily, hfamilies, getElem?_snoc_eq_some_iff, or_and_right, exists_or,
      ← hbefore, and_assoc]
    cases hid : table.familyId technology with
    | some j =>
      have hold : technology ∉ members := fun hmem =>
        hfresh technology hmem (mem_claimed_iff.2 (by simp [hid]))
      simp [hold]
    | none => simp [eq_comm, and_comm]

end WellFormed

theorem wellFormed_build (groups : List String) : (build groups).1.WellFormed :=
  build_induction wellFormed_empty (fun _ _ hnodup hfresh h => h.addFamily hnodup hfresh) groups

theorem sameFamily_iff {table : FamilyTable} {a b : RadioTechnology} :
    table.sameFamily a b = true ↔ ∃ i, table.familyId a = some i ∧ table.familyId b = some i := by
  unfold sameFamily
  cases table.familyId a with
  | none => simp
  | some i =>
    cases table.familyId b with
    | none => simp
    | some j => simp [eq_comm (a := j)]

theorem sameFamily_comm (table : FamilyTable) (a b : RadioTechnology) :
    table.sameFamily a b = table.sameFamily b a := by
  rw [Bool.eq_iff_iff, sameFamily_iff, sameFamily_iff]
  exact exists_congr fun i => and_comm

theorem sameFamily_trans {table : FamilyTable} {a b c : RadioTechnology}
    (hab : table.sameFamily a b = true) (hbc : table.sameFamily b c = true) :
    table.sameFamily a c = true := by
  obtain ⟨i, ha, hb⟩ := sameFamily_iff.1 hab
  obtain ⟨j, hb', hc⟩ := sameFamily_iff.1 hbc
  obtain rfl := Option.some.inj (hb.symm.trans hb')
  exact sameFamily_iff.2 ⟨i, ha, hc⟩

namespace WellFormed

variable {table : FamilyTable}

/-- The family of a technology is the one that has it for a member. -/
theorem familyOf_eq_some_iff (h : table.WellFormed) {technology : RadioTechnology}
    {family : Family} :
    table.familyOf technology = some family ↔
      family ∈ table.families ∧ technology ∈ family.members := by
  simp only [familyOf, Option.bind_eq_some_iff, h.familyId_eq_some_iff]
  constructor
  · rintro ⟨i, ⟨found, hfound, hmem⟩, hget⟩
    obtain rfl := Option.some.inj (hfound.symm.trans hget)
    exact ⟨List.mem_of_getElem? hget, hmem⟩
  · rintro ⟨hfamily, hmem⟩
    obtain ⟨i, hget⟩ := List.getElem?_of_mem hfamily
    exact ⟨i, ⟨family, hget, hmem⟩, hget⟩

theorem familyId_eq_of_mem (h : table.WellFormed) {family : Family}
    (hfamily : family ∈ table.families) {technology : RadioTechnology}
    (hmem : technology ∈ family.members) : table.familyId technology = some family.id := by
  obtain ⟨i, hget⟩ := List.getElem?_of_mem hfamily
  rw [h.familyId_eq_some_iff]
  exact ⟨family, by rwa [h.id_eq i family hget], hmem⟩

theorem sameFamily_of_mem (h : table.WellFormed) {family : Family}
    (hfamily : family ∈ table.families) {a b : RadioTechnology} (ha : a ∈ family.members)
    (hb : b ∈ family.members) : table.sameFamily a b = true := by
  simp [sameFamily, h.familyId_eq_of_mem hfamily ha, h.familyId_eq_of_mem hfamily hb]

/-- A technology is in the family of every technology of its own family. -/
theorem mem_of_sameFamily (h : table.WellFormed) {family : Family}
    (hfamily : family ∈ table.families) {a b : RadioTechnology} (ha : a ∈ family.members)
    (hsame : table.sameFamily a b = true) : b ∈ family.members := by
  obtain ⟨j, hida, hidb⟩ := sameFamily_iff.1 hsame
  obtain rfl := Option.some.inj ((h.familyId_eq_of_mem hfamily ha).symm.trans hida)
  obtain ⟨found, hget, hmem⟩ := (h.familyId_eq_some_iff b family.id).1 hidb
  obtain ⟨i, hget'⟩ := List.getElem?_of_mem hfamily
  rw [h.id_eq i family hget', hget'] at hget
  exact Option.some.inj hget ▸ hmem

end WellFormed

end FamilyTable

end CellularRegistration
