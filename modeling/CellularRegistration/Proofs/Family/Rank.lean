import CellularRegistration.Proofs.Family.WellFormed
import CellularRegistration.Ratchet

namespace CellularRegistration

namespace Family

variable {family : Family} {a b c : RadioTechnology}

/-- Both technologies are members of a family, and the first does not rank above the second. -/
def RankLE (family : Family) (a b : RadioTechnology) : Prop :=
  ∃ i j, family.rank a = some i ∧ family.rank b = some j ∧ i ≤ j

theorem rank_eq_none_iff : family.rank a = none ↔ a ∉ family.members :=
  List.idxOf?_eq_none_iff

theorem exists_rank (ha : a ∈ family.members) : ∃ i, family.rank a = some i := by
  cases hrank : family.rank a with
  | none => exact absurd ha (rank_eq_none_iff.1 hrank)
  | some i => exact ⟨i, rfl⟩

theorem mem_of_rank {i : Nat} (ha : family.rank a = some i) : a ∈ family.members := by
  obtain ⟨hi, hget, _⟩ := List.idxOf?_eq_some_iff.1 ha
  exact hget ▸ List.getElem_mem hi

/-- Members of the same rank are the same. -/
theorem eq_of_rank_eq {i : Nat} (ha : family.rank a = some i) (hb : family.rank b = some i) :
    a = b := by
  obtain ⟨_, hgeta, _⟩ := List.idxOf?_eq_some_iff.1 ha
  obtain ⟨_, hgetb, _⟩ := List.idxOf?_eq_some_iff.1 hb
  exact hgeta.symm.trans hgetb

theorem members_eq_singleton (hnodup : family.members.Nodup) (ha : a ∈ family.members)
    (hall : ∀ b ∈ family.members, b = a) : family.members = [a] := by
  cases hmembers : family.members with
  | nil => simp [hmembers] at ha
  | cons first rest =>
    rw [hmembers] at hall hnodup
    obtain ⟨rfl, hrest⟩ := List.forall_mem_cons.1 hall
    rw [List.eq_nil_iff_forall_not_mem.2 fun b hb =>
      (List.nodup_cons.1 hnodup).1 (hrest b hb ▸ hb)]

/-- Without repetitions, every position in a family is the rank of a member. -/
theorem exists_rank_eq (hnodup : family.members.Nodup) {i : Nat} (hi : i < family.members.length) :
    ∃ technology, family.rank technology = some i := by
  refine ⟨family.members[i], List.idxOf?_eq_some_iff.2 ⟨hi, rfl, fun j hj => ?_⟩⟩
  exact List.pairwise_iff_getElem.1 hnodup j i (Nat.lt_trans hj hi) hi hj

theorem lt_length_of_rank {i : Nat} (ha : family.rank a = some i) : i < family.members.length :=
  (List.idxOf?_eq_some_iff.1 ha).1

namespace RankLE

theorem mem_left (h : family.RankLE a b) : a ∈ family.members :=
  let ⟨_, _, ha, _⟩ := h
  mem_of_rank ha

theorem mem_right (h : family.RankLE a b) : b ∈ family.members :=
  let ⟨_, _, _, hb, _⟩ := h
  mem_of_rank hb

theorem le (h : family.RankLE a b) {i j : Nat} (ha : family.rank a = some i)
    (hb : family.rank b = some j) : i ≤ j := by
  obtain ⟨i', j', ha', hb', hij⟩ := h
  obtain rfl := Option.some.inj (ha.symm.trans ha')
  obtain rfl := Option.some.inj (hb.symm.trans hb')
  exact hij

theorem refl (ha : a ∈ family.members) : family.RankLE a a := by
  obtain ⟨i, hi⟩ := exists_rank ha
  exact ⟨i, i, hi, hi, Nat.le_refl i⟩

theorem trans (hab : family.RankLE a b) (hbc : family.RankLE b c) : family.RankLE a c := by
  obtain ⟨i, j, ha, hb, hij⟩ := hab
  obtain ⟨j', k, hb', hc, hjk⟩ := hbc
  obtain rfl := Option.some.inj (hb.symm.trans hb')
  exact ⟨i, k, ha, hc, Nat.le_trans hij hjk⟩

theorem antisymm (hab : family.RankLE a b) (hba : family.RankLE b a) : a = b := by
  obtain ⟨i, j, ha, hb, hij⟩ := hab
  obtain rfl := Nat.le_antisymm hij (hba.le hb ha)
  exact eq_of_rank_eq ha hb

theorem total (ha : a ∈ family.members) (hb : b ∈ family.members) :
    family.RankLE a b ∨ family.RankLE b a := by
  obtain ⟨i, hi⟩ := exists_rank ha
  obtain ⟨j, hj⟩ := exists_rank hb
  obtain hij | hji := Nat.le_total i j
  · exact .inl ⟨i, j, hi, hj, hij⟩
  · exact .inr ⟨j, i, hj, hi, hji⟩

end RankLE

/-- A technology that occurs among some members of a family and above which none of them ranks. -/
structure IsHighest (family : Family) (technologies : List RadioTechnology)
    (technology : RadioTechnology) : Prop where
  mem : technology ∈ technologies
  rankLE : ∀ other ∈ technologies, family.RankLE other technology

/-- The order of the technologies, and how often they occur, does not matter. -/
theorem IsHighest.eq_of_mem_iff {first second : List RadioTechnology} (ha : family.IsHighest first a)
    (hb : family.IsHighest second b) (hsame : ∀ technology, technology ∈ first ↔ technology ∈ second) :
    a = b :=
  (hb.rankLE a ((hsame a).1 ha.mem)).antisymm (ha.rankLE b ((hsame b).2 hb.mem))

end Family

namespace FamilyTable

variable {table : FamilyTable} {family : Family} {a b : RadioTechnology}

theorem higher_eq_or (table : FamilyTable) (a b : RadioTechnology) :
    table.higher a b = a ∨ table.higher a b = b := by
  unfold higher
  split
  · exact .inr rfl
  · split
    · exact .inl rfl
    · exact .inr rfl

theorem higher_self (table : FamilyTable) (a : RadioTechnology) : table.higher a a = a := by
  obtain h | h := table.higher_eq_or a a <;> exact h

theorem higher_higher (table : FamilyTable) (a b : RadioTechnology) :
    table.higher (table.higher a b) b = table.higher a b := by
  obtain h | h := table.higher_eq_or a b
  · rw [h, h]
  · rw [h, table.higher_self]

theorem higher_of_not_sameFamily (h : table.sameFamily a b = false) : table.higher a b = b := by
  unfold higher
  split
  · rfl
  · simp [h]

namespace WellFormed

theorem higher_eq (h : table.WellFormed) (hfamily : family ∈ table.families)
    (ha : a ∈ family.members) (hb : b ∈ family.members) :
    table.higher a b = if outranks (family.rank a) (family.rank b) then a else b := by
  rw [higher, h.familyOf_eq_some_iff.2 ⟨hfamily, ha⟩]
  simp only [h.sameFamily_of_mem hfamily ha hb, Bool.true_and]

theorem higher_eq_right (h : table.WellFormed) (hfamily : family ∈ table.families)
    (hle : family.RankLE a b) : table.higher a b = b := by
  rw [h.higher_eq hfamily hle.mem_left hle.mem_right]
  obtain ⟨i, j, hi, hj, hij⟩ := hle
  simp only [hi, hj, outranks, decide_eq_true_eq]
  rw [if_neg (by omega)]

theorem higher_eq_left (h : table.WellFormed) (hfamily : family ∈ table.families)
    (hle : family.RankLE b a) : table.higher a b = a := by
  rw [h.higher_eq hfamily hle.mem_right hle.mem_left]
  by_cases hab : a = b
  · rw [hab, ite_self]
  · obtain ⟨j, i, hj, hi, hji⟩ := hle
    have hlt : j ≠ i := by
      rintro rfl
      exact hab (Family.eq_of_rank_eq hi hj)
    simp only [hi, hj, outranks, decide_eq_true_eq]
    rw [if_pos (by omega)]

/-- Of two members, neither ranks above the higher one. -/
theorem rankLE_higher (h : table.WellFormed) (hfamily : family ∈ table.families)
    (ha : a ∈ family.members) (hb : b ∈ family.members) :
    family.RankLE a (table.higher a b) ∧ family.RankLE b (table.higher a b) := by
  obtain hle | hle := Family.RankLE.total ha hb
  · rw [h.higher_eq_right hfamily hle]
    exact ⟨hle, .refl hb⟩
  · rw [h.higher_eq_left hfamily hle]
    exact ⟨.refl ha, hle⟩

theorem isHighest_higher (h : table.WellFormed) (hfamily : family ∈ table.families)
    {technologies : List RadioTechnology} (ha : family.IsHighest technologies a)
    (hb : b ∈ family.members) : family.IsHighest (technologies ++ [b]) (table.higher a b) := by
  obtain ⟨hold, hnew⟩ := h.rankLE_higher hfamily (ha.rankLE a ha.mem).mem_left hb
  constructor
  · rw [List.mem_append, List.mem_singleton]
    obtain heq | heq := higher_eq_or table a b
    · exact .inl (by rw [heq]; exact ha.mem)
    · exact .inr heq
  · intro other hmem
    obtain hmem | hmem := List.mem_append.1 hmem
    · exact (ha.rankLE other hmem).trans hold
    · exact List.mem_singleton.1 hmem ▸ hnew

end WellFormed

end FamilyTable

end CellularRegistration
