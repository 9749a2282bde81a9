import CellularRegistration.Proofs.Family.Rank
import Mathlib.Data.List.Nodup

namespace CellularRegistration

namespace Family

variable {family : Family} {a b : RadioTechnology}

/-- What the index of a table holds about a family. -/
def indexed (family : Family) : List (RadioTechnology × Nat) :=
  family.members.map fun technology => (technology, family.id)

/-- Without repetitions, the rank of a member is its position. -/
theorem rank_eq_some_iff (hnodup : family.members.Nodup) {i : Nat} :
    family.rank a = some i ↔ family.members[i]? = some a := by
  constructor
  · intro hrank
    obtain ⟨hi, hget, _⟩ := List.idxOf?_eq_some_iff.1 hrank
    rw [List.getElem?_eq_getElem hi, hget]
  · intro hget
    obtain ⟨hi, hget⟩ := List.getElem?_eq_some_iff.1 hget
    refine List.idxOf?_eq_some_iff.2 ⟨hi, hget, fun j hj => ?_⟩
    rw [← hget]
    exact List.pairwise_iff_getElem.1 hnodup j i (Nat.lt_trans hj hi) hi hj

/-- A rank that is a member's is no other technology's. -/
theorem eq_of_rank_eq_rank (ha : a ∈ family.members) (hrank : family.rank a = family.rank b) :
    a = b := by
  obtain ⟨i, hi⟩ := exists_rank ha
  exact eq_of_rank_eq hi (hrank.symm.trans hi)

end Family

namespace FamilyTable

theorem index_build (groups : List String) :
    (build groups).1.index = (build groups).1.families.flatMap Family.indexed := by
  -- Wherever a group is given up, its family and the family's part of the index are added together.
  refine build_induction (P := fun table => table.index = table.families.flatMap Family.indexed)
    ?_ ?_ groups
  · rfl
  · intro table members _ _ hindex
    by_cases hmembers : members = []
    · rwa [addFamily, if_pos hmembers]
    · simp only [addFamily, if_neg hmembers, hindex, List.flatMap_append, List.flatMap_singleton,
        Family.indexed]

/-- The families of a table divide its technologies among them, and whatever a table is asked, its
answer is told by their members. -/
structure Consistent (table : FamilyTable) : Prop extends table.WellFormed where
  /-- No technology belongs to two families. -/
  eq_of_mem_members : ∀ first ∈ table.families, ∀ second ∈ table.families, ∀ technology,
    technology ∈ first.members → technology ∈ second.members → first = second
  /-- The index holds each member of each family once, under the number of the family. -/
  index_nodup : (table.index.map Prod.fst).Nodup
  mem_index_iff : ∀ technology i, (technology, i) ∈ table.index ↔
    ∃ family, table.families[i]? = some family ∧ technology ∈ family.members
  /-- No number in the index is without a family. -/
  exists_familyOf : ∀ technology i, table.familyId technology = some i →
    ∃ family, table.families[i]? = some family ∧ table.familyOf technology = some family
  familyOf_eq_some_iff : ∀ technology family, table.familyOf technology = some family ↔
    family ∈ table.families ∧ technology ∈ family.members
  sameFamily_iff_familyOf : ∀ a b, table.sameFamily a b = true ↔
    ∃ family, table.familyOf a = some family ∧ table.familyOf b = some family
  sameFamily_iff_rank : ∀ a b, table.sameFamily a b = true ↔
    ∃ family i, table.familyOf a = some family ∧ family.rank b = some i
  /-- The rank of a member is its position, so no two members have the same rank. -/
  rank_eq_some_iff : ∀ family ∈ table.families, ∀ technology i,
    family.rank technology = some i ↔ family.members[i]? = some technology
  eq_of_rank_eq : ∀ family ∈ table.families, ∀ a ∈ family.members, ∀ b ∈ family.members,
    family.rank a = family.rank b → a = b

namespace WellFormed

variable {table : FamilyTable} (h : table.WellFormed)
include h

theorem eq_of_mem_members {first second : Family} (hfirst : first ∈ table.families)
    (hsecond : second ∈ table.families) {technology : RadioTechnology}
    (hmem : technology ∈ first.members) (hmem' : technology ∈ second.members) : first = second := by
  have hfound := h.familyOf_eq_some_iff.2 ⟨hfirst, hmem⟩
  have hfound' := h.familyOf_eq_some_iff.2 ⟨hsecond, hmem'⟩
  exact Option.some.inj (hfound.symm.trans hfound')

theorem exists_familyOf {technology : RadioTechnology} {i : Nat}
    (hid : table.familyId technology = some i) :
    ∃ family, table.families[i]? = some family ∧ table.familyOf technology = some family := by
  obtain ⟨family, hget, hmem⟩ := (h.familyId_eq_some_iff technology i).1 hid
  exact ⟨family, hget, h.familyOf_eq_some_iff.2 ⟨List.mem_of_getElem? hget, hmem⟩⟩

theorem sameFamily_iff_familyOf {a b : RadioTechnology} : table.sameFamily a b = true ↔
    ∃ family, table.familyOf a = some family ∧ table.familyOf b = some family := by
  constructor
  · intro hsame
    obtain ⟨i, hida, hidb⟩ := sameFamily_iff.1 hsame
    obtain ⟨family, hget, hfounda⟩ := h.exists_familyOf hida
    obtain ⟨family', hget', hfoundb⟩ := h.exists_familyOf hidb
    obtain rfl := Option.some.inj (hget.symm.trans hget')
    exact ⟨family, hfounda, hfoundb⟩
  · rintro ⟨family, hfounda, hfoundb⟩
    obtain ⟨hfamily, ha⟩ := h.familyOf_eq_some_iff.1 hfounda
    obtain ⟨-, hb⟩ := h.familyOf_eq_some_iff.1 hfoundb
    exact h.sameFamily_of_mem hfamily ha hb

theorem sameFamily_iff_rank {a b : RadioTechnology} : table.sameFamily a b = true ↔
    ∃ family i, table.familyOf a = some family ∧ family.rank b = some i := by
  rw [h.sameFamily_iff_familyOf]
  refine exists_congr fun family => ?_
  constructor
  · rintro ⟨hfounda, hfoundb⟩
    obtain ⟨i, hrank⟩ := Family.exists_rank (h.familyOf_eq_some_iff.1 hfoundb).2
    exact ⟨i, hfounda, hrank⟩
  · rintro ⟨i, hfounda, hrank⟩
    have hfamily := (h.familyOf_eq_some_iff.1 hfounda).1
    exact ⟨hfounda, h.familyOf_eq_some_iff.2 ⟨hfamily, Family.mem_of_rank hrank⟩⟩

/-- The families lie at different positions, so they have different numbers, and no technology in
common. -/
theorem pairwise_disjoint : table.families.Pairwise fun first second =>
    first.members.Disjoint second.members := by
  rw [List.pairwise_iff_getElem]
  intro i j hi hj hlt technology hmem hmem'
  have heq := h.eq_of_mem_members (List.getElem_mem hi) (List.getElem_mem hj) hmem hmem'
  have hid := h.id_eq i _ (List.getElem?_eq_getElem hi)
  have hid' := h.id_eq j _ (List.getElem?_eq_getElem hj)
  rw [heq, hid'] at hid
  omega

section Index

variable (hindex : table.index = table.families.flatMap Family.indexed)
include hindex

theorem index_nodup : (table.index.map Prod.fst).Nodup := by
  have hkeys : table.index.map Prod.fst = table.families.flatMap Family.members := by
    simp [hindex, List.map_flatMap, Family.indexed, Function.comp_def]
  rw [hkeys, List.nodup_flatMap]
  exact ⟨h.members_nodup, h.pairwise_disjoint⟩

theorem mem_index_iff {technology : RadioTechnology} {i : Nat} : (technology, i) ∈ table.index ↔
    ∃ family, table.families[i]? = some family ∧ technology ∈ family.members := by
  simp only [hindex, List.mem_flatMap, Family.indexed, List.mem_map, Prod.mk.injEq]
  constructor
  · rintro ⟨family, hfamily, member, hmem, rfl, rfl⟩
    obtain ⟨i, hget⟩ := List.getElem?_of_mem hfamily
    exact ⟨family, by rwa [h.id_eq i family hget], hmem⟩
  · rintro ⟨family, hget, hmem⟩
    exact ⟨family, List.mem_of_getElem? hget, technology, hmem, rfl, h.id_eq i family hget⟩

end Index

end WellFormed

/-- Whatever is wrong with the groups, and wherever a group is given up, the table is consistent. -/
theorem consistent_build (groups : List String) : (build groups).1.Consistent := by
  have h := wellFormed_build groups
  have hindex := index_build groups
  exact
    { toWellFormed := h
      eq_of_mem_members := fun first hfirst second hsecond technology =>
        h.eq_of_mem_members hfirst hsecond
      index_nodup := h.index_nodup hindex
      mem_index_iff := fun technology i => h.mem_index_iff hindex
      exists_familyOf := fun technology i => h.exists_familyOf
      familyOf_eq_some_iff := fun technology family => h.familyOf_eq_some_iff
      sameFamily_iff_familyOf := fun a b => h.sameFamily_iff_familyOf
      sameFamily_iff_rank := fun a b => h.sameFamily_iff_rank
      rank_eq_some_iff := fun family hfamily technology i =>
        Family.rank_eq_some_iff (h.members_nodup family hfamily)
      eq_of_rank_eq := fun family hfamily a ha b hb => Family.eq_of_rank_eq_rank ha }

/-- Groups may be given up at their first entry, in the middle or at the last one. -/
example : (build ["x,1", "1,2,x,3", "4,5,4", ",6", "7,8,,", "9"]).1.families =
    [⟨0, [.gprs, .edge]⟩, ⟨1, [.is95a, .is95b]⟩, ⟨2, [.evdo0, .evdoA]⟩] := by
  decide

end FamilyTable

end CellularRegistration
