import CellularRegistration.Proofs.Family.Rank
import CellularRegistration.Proofs.Ratchet.Related
import Mathlib.Tactic.ByContra

namespace CellularRegistration

open RadioTechnology

namespace Family

variable {family : Family} {a b : RadioTechnology} {f g : Bool}

/-- Carrier aggregation does not upset the ranks of a family, although technologies are compared as
they are recorded and carrier aggregation is kept whichever is taken: LTE with it ranks right above
LTE without, or neither is a member; or it is not a member and LTE is the lowest; or it is the only
member. -/
def AggregationSafe (family : Family) : Prop :=
  family.rank .lteCa = (family.rank .lte).map (· + 1) ∨
    (family.rank .lte = some 0 ∧ .lteCa ∉ family.members) ∨ family.members = [.lteCa]

instance : Decidable family.AggregationSafe :=
  inferInstanceAs (Decidable (_ ∨ _ ∨ _))

theorem mem_of_effective_mem (hlte : .lte ∈ family.members) (h : a.effective f ∈ family.members) :
    a ∈ family.members := by
  obtain heq | ⟨rfl, -, -⟩ := effective_eq_or a f
  · rwa [heq] at h
  · exact hlte

/-- With LTE and its carrier aggregation next to each other, ranks carry over to the effective
technologies. -/
theorem RankLE.effective {i : Nat} (hlte : family.rank .lte = some i)
    (hca : family.rank .lteCa = some (i + 1)) (hle : family.RankLE a b)
    (hkept : f = true → g = true) : family.RankLE (a.effective f) (b.effective g) := by
  have hadjacent : family.RankLE .lte .lteCa := ⟨i, i + 1, hlte, hca, Nat.le_succ i⟩
  have hright : family.RankLE b (b.effective g) := by
    obtain heq | ⟨rfl, -, heq⟩ := effective_eq_or b g
    · rw [heq]
      exact .refl hle.mem_right
    · rw [heq]
      exact hadjacent
  obtain heq | ⟨rfl, hf, heq⟩ := effective_eq_or a f
  · rw [heq]
    exact hle.trans hright
  · by_cases hb : b = .lte
    · subst hb
      rw [hf, hkept hf]
      exact .refl hadjacent.mem_right
    · obtain ⟨i', j, hi', hj, hij⟩ := hle
      obtain rfl := Option.some.inj (hlte.symm.trans hi')
      have hlt : i ≠ j := by
        rintro rfl
        exact hb (eq_of_rank_eq hj hlte)
      rw [heq, effective_of_ne hb]
      exact ⟨i + 1, j, hca, hj, by omega⟩

/-- Where LTE with carrier aggregation is not a member, technologies are effective as they are. -/
theorem effective_eq_of_mem (hca : .lteCa ∉ family.members) (h : a.effective f ∈ family.members) :
    a.effective f = a ∧ (a = .lte → f = false) := by
  obtain heq | ⟨-, -, heq⟩ := effective_eq_or a f
  · refine ⟨heq, ?_⟩
    rintro rfl
    cases f with
    | false => rfl
    | true => exact absurd h hca
  · exact absurd (heq ▸ h) hca

theorem rankLE_effective_of_only (table : FamilyTable) (honly : family.members = [.lteCa])
    (ha : a.effective f ∈ family.members) (hb : b.effective g ∈ family.members) :
    family.RankLE (a.effective f) ((table.higher a b).effective (f || g)) := by
  rw [honly, List.mem_singleton] at ha hb
  have heffective : (table.higher a b).effective (f || g) = .lteCa := by
    obtain heq | heq := FamilyTable.higher_eq_or table a b
    · rw [heq]
      exact effective_eq_lteCa ha (by simp +contextual)
    · rw [heq]
      exact effective_eq_lteCa hb (by simp +contextual)
  rw [ha, heffective]
  exact .refl (honly ▸ List.mem_singleton.2 rfl)

section Higher

variable {table : FamilyTable} (htable : table.WellFormed) (hfamily : family ∈ table.families)
  (ha : a.effective f ∈ family.members) (hb : b.effective g ∈ family.members)
include htable hfamily ha hb

theorem rankLE_effective_of_not_mem (hca : .lteCa ∉ family.members)
    (hlowest : ∀ c, family.RankLE c .lte → c = .lte) :
    family.RankLE (a.effective f) ((table.higher a b).effective (f || g)) := by
  obtain ⟨hatech, haflag⟩ := effective_eq_of_mem hca ha
  obtain ⟨hbtech, hbflag⟩ := effective_eq_of_mem hca hb
  rw [hatech] at ha ⊢
  rw [hbtech] at hb
  obtain ⟨hale, hble⟩ := htable.rankLE_higher hfamily ha hb
  obtain heq | ⟨hlte, hflag, -⟩ := effective_eq_or (table.higher a b) (f || g)
  · rw [heq]
    exact hale
  · -- LTE is the higher one only of itself, and it was reported without carrier aggregation.
    rw [hlte] at hale hble
    rw [haflag (hlowest a hale), hbflag (hlowest b hble)] at hflag
    cases hflag

/-- In such a family, ratcheting a technology and keeping carrier aggregation does not lower the
effective technology. -/
theorem AggregationSafe.rankLE_effective (h : family.AggregationSafe) :
    family.RankLE (a.effective f) ((table.higher a b).effective (f || g)) := by
  obtain hnext | ⟨hlowest, hca⟩ | honly := h
  · cases hlte : family.rank .lte with
    | none =>
      rw [hlte] at hnext
      exact rankLE_effective_of_not_mem htable hfamily ha hb (rank_eq_none_iff.1 hnext)
        fun c hle => absurd hle.mem_right (rank_eq_none_iff.1 hlte)
    | some i =>
      rw [hlte] at hnext
      have hmem := mem_of_rank hlte
      exact (htable.rankLE_higher hfamily (mem_of_effective_mem hmem ha)
        (mem_of_effective_mem hmem hb)).1.effective hlte hnext (by simp +contextual)
  · refine rankLE_effective_of_not_mem htable hfamily ha hb hca fun c hle => ?_
    obtain ⟨i, j, hi, hj, hij⟩ := hle
    obtain rfl := Option.some.inj (hlowest.symm.trans hj)
    obtain rfl := Nat.le_zero.1 hij
    exact eq_of_rank_eq hi hlowest
  · exact rankLE_effective_of_only table honly ha hb

end Higher

end Family

namespace Ratchet

variable {table : FamilyTable} {family : Family}

/-- The effective technologies that are published for a device that stays where it is are of a
family and never fall, whatever of that family is reported. -/
def EffectiveNeverFalls (table : FamilyTable) (family : Family) : Prop :=
  ∀ (latches : Latches) (initial : ServiceState) (reports : List ServiceState),
    latches.data = true →
    (∀ state ∈ initial :: reports, state.effectiveDataTechnology ∈ family.members) →
    (∀ taken ∈ chainInPlace table latches initial reports,
      taken.state.effectiveDataTechnology ∈ family.members) ∧
    (initial :: (chainInPlace table latches initial reports).map Step.state).IsChain
      fun before after =>
        family.RankLE before.effectiveDataTechnology after.effectiveDataTechnology

theorem rankLE_effective_step (htable : table.WellFormed) (hfamily : family ∈ table.families)
    (h : family.AggregationSafe) {latches : Latches} {old new : ServiceState}
    (harmed : latches.data = true) (hold : old.effectiveDataTechnology ∈ family.members)
    (hnew : new.effectiveDataTechnology ∈ family.members) :
    family.RankLE old.effectiveDataTechnology
      (step table latches old new false).state.effectiveDataTechnology := by
  rw [effectiveDataTechnology_step_of_armed harmed (htable.related_of_mem hfamily hold hnew)]
  exact h.rankLE_effective htable hfamily hold hnew

theorem effectiveNeverFalls_of_aggregationSafe (htable : table.WellFormed)
    (hfamily : family ∈ table.families) (h : family.AggregationSafe) :
    EffectiveNeverFalls table family := by
  intro latches initial reports harmed hmembers
  obtain ⟨hinitial, hreports⟩ := List.forall_mem_cons.1 hmembers
  have hstep : ∀ (latches : Latches) (old new : ServiceState),
      (latches.data = true ∧ old.effectiveDataTechnology ∈ family.members) →
      new.effectiveDataTechnology ∈ family.members → True →
      ((step table latches old new false).latches.data = true ∧
        (step table latches old new false).state.effectiveDataTechnology ∈ family.members) ∧
      family.RankLE old.effectiveDataTechnology
        (step table latches old new false).state.effectiveDataTechnology := by
    rintro latches old new ⟨harmed, hold⟩ hnew -
    have hle := rankLE_effective_step htable hfamily h harmed hold hnew
    exact ⟨⟨latch_step_of_armed (d := .ps) harmed, hle.mem_right⟩, hle⟩
  obtain ⟨hall, hchain⟩ := isChain_chainInPlace (G := fun _ => True)
    (I := fun latches state =>
      latches.data = true ∧ state.effectiveDataTechnology ∈ family.members)
    (R := fun before after =>
      family.RankLE before.effectiveDataTechnology after.effectiveDataTechnology)
    hstep ⟨harmed, hinitial⟩ hreports fun _ _ => trivial
  exact ⟨fun taken htaken => (hall taken htaken).2, hchain⟩

/-- One report is enough to see what can go wrong. -/
theorem EffectiveNeverFalls.rankLE (h : EffectiveNeverFalls table family)
    (htable : table.WellFormed) (hfamily : family ∈ table.families)
    (a : RadioTechnology) (f : Bool) (ha : a.effective f ∈ family.members)
    (b : RadioTechnology) (g : Bool) (hb : b.effective g ∈ family.members) :
    family.RankLE (a.effective f) ((table.higher a b).effective (f || g)) := by
  have hchain := (h .armed (.plain a f) [.plain b g] rfl (by
    rintro state hmem
    obtain rfl | hmem := List.mem_cons.1 hmem
    · exact ha
    · obtain rfl := List.mem_singleton.1 hmem
      exact hb)).2
  have hle : family.RankLE _
      (step table .armed (.plain a f) (.plain b g) false).state.effectiveDataTechnology :=
    (List.isChain_cons_cons.1 hchain).1
  have hgate := htable.related_of_mem hfamily ha hb
  rw [effectiveDataTechnology_step_of_armed rfl (by exact hgate)] at hle
  exact hle

namespace EffectiveNeverFalls

variable (h : EffectiveNeverFalls table family) (htable : table.WellFormed)
  (hfamily : family ∈ table.families)
include h htable hfamily

/-- Where LTE is not a member, LTE with carrier aggregation gives way to a lower member that is
reported after it, and takes the place of a higher one. -/
theorem members_eq (hlte : .lte ∉ family.members) (hca : .lteCa ∈ family.members) :
    family.members = [.lteCa] := by
  have hall : ∀ technology ∈ family.members, technology = .lteCa := by
    intro technology hmem
    have hother : table.sameFamily technology .lte = false := by
      rw [Bool.eq_false_iff]
      exact fun hsame => hlte (htable.mem_of_sameFamily hfamily hmem hsame)
    have hne : technology ≠ .lte := fun heq => hlte (heq ▸ hmem)
    obtain hle | hle := Family.RankLE.total hmem hca
    · have hup := h.rankLE htable hfamily .lte true hca technology false (by simpa using hmem)
      rw [FamilyTable.higher_of_not_sameFamily (table.sameFamily_comm _ _ ▸ hother),
        effective_of_ne hne] at hup
      exact hle.antisymm hup
    · have hup := h.rankLE htable hfamily technology false (by simpa using hmem) .lte true hca
      rw [FamilyTable.higher_of_not_sameFamily hother, effective_false] at hup
      exact hup.antisymm hle
  exact Family.members_eq_singleton (htable.members_nodup family hfamily) hca hall

/-- The lowest member would hand its carrier aggregation on to LTE. -/
theorem rank_lte_eq_zero {i : Nat} (hlte : family.rank .lte = some i)
    (hca : .lteCa ∉ family.members) : i = 0 := by
  by_contra hpos
  obtain ⟨lowest, hlowest⟩ := Family.exists_rank_eq (htable.members_nodup family hfamily)
    (Nat.lt_of_le_of_lt (Nat.zero_le i) (Family.lt_length_of_rank hlte))
  have hne : lowest ≠ .lte := by
    rintro rfl
    exact hpos (Option.some.inj (hlte.symm.trans hlowest))
  have hle : family.RankLE lowest .lte := ⟨0, i, hlowest, hlte, Nat.zero_le i⟩
  have hup := h.rankLE htable hfamily lowest true (by rw [effective_of_ne hne]; exact hle.mem_left)
    .lte false hle.mem_right
  rw [htable.higher_eq_right hfamily hle] at hup
  exact hca hup.mem_right

/-- A member right above LTE would be taken for higher than LTE with carrier aggregation. -/
theorem rank_lteCa_eq {i k : Nat} (hlte : family.rank .lte = some i)
    (hca : family.rank .lteCa = some k) : k = i + 1 := by
  have hmem := Family.mem_of_rank hlte
  have hle : i ≤ k := by
    have hup := h.rankLE htable hfamily .lte false hmem .lte true (Family.mem_of_rank hca)
    rw [htable.higher_eq_right hfamily (.refl hmem)] at hup
    exact hup.le hlte hca
  have hlt : i ≠ k := by
    rintro rfl
    cases Family.eq_of_rank_eq hlte hca
  by_contra hnext
  obtain ⟨between, hbetween⟩ := Family.exists_rank_eq (htable.members_nodup family hfamily)
    (show i + 1 < family.members.length by
      have := Family.lt_length_of_rank hca
      omega)
  have hne : between ≠ .lte := by
    rintro rfl
    exact absurd (Option.some.inj (hlte.symm.trans hbetween)) (by omega)
  have hup := h.rankLE htable hfamily .lte true (Family.mem_of_rank hca) between false
    (by simpa using Family.mem_of_rank hbetween)
  rw [htable.higher_eq_right hfamily ⟨i, i + 1, hlte, hbetween, Nat.le_succ i⟩,
    effective_of_ne hne] at hup
  have hback := hup.le hca hbetween
  omega

theorem aggregationSafe : family.AggregationSafe := by
  cases hlte : family.rank .lte with
  | none =>
    have hmem := Family.rank_eq_none_iff.1 hlte
    cases hca : family.rank .lteCa with
    | none => exact .inl (by rw [hlte, hca]; rfl)
    | some k => exact .inr (.inr (h.members_eq htable hfamily hmem (Family.mem_of_rank hca)))
  | some i =>
    cases hca : family.rank .lteCa with
    | none =>
      have hmem := Family.rank_eq_none_iff.1 hca
      obtain rfl := h.rank_lte_eq_zero htable hfamily hlte hmem
      exact .inr (.inl ⟨hlte, hmem⟩)
    | some k =>
      obtain rfl := h.rank_lteCa_eq htable hfamily hlte hca
      exact .inl (by rw [hlte, hca]; rfl)

end EffectiveNeverFalls

/-- Of the families that a carrier can configure, the effective technology never falls in exactly
those whose ranks carrier aggregation does not upset. -/
theorem effectiveNeverFalls_iff {groups : List String}
    (hfamily : family ∈ (FamilyTable.build groups).1.families) :
    EffectiveNeverFalls (FamilyTable.build groups).1 family ↔ family.AggregationSafe :=
  have htable := FamilyTable.wellFormed_build groups
  ⟨fun h => h.aggregationSafe htable hfamily,
    effectiveNeverFalls_of_aggregationSafe htable hfamily⟩

theorem effectiveNeverFalls_of_aggregation_above_lte :
    (⟨0, [.umts, .lte, .lteCa]⟩ : Family) ∈ (FamilyTable.build ["3,14,19"]).1.families ∧
      EffectiveNeverFalls (FamilyTable.build ["3,14,19"]).1 ⟨0, [.umts, .lte, .lteCa]⟩ :=
  ⟨by decide, (effectiveNeverFalls_iff (by decide)).2 (by decide)⟩

/-- With UMTS between LTE and its carrier aggregation, a device that uses LTE with carrier
aggregation and then UMTS is shown with UMTS. -/
theorem effective_falls_to_umts_between :
    (⟨0, [.lte, .umts, .lteCa]⟩ : Family) ∈ (FamilyTable.build ["14,3,19"]).1.families ∧
      ((chainInPlace (FamilyTable.build ["14,3,19"]).1 .armed (.plain .lte false)
          [.plain .lte true, .plain .umts false]).map
        fun taken => taken.state.effectiveDataTechnology) = [.lteCa, .umts] ∧
      ¬ ∀ groups, ∀ family ∈ (FamilyTable.build groups).1.families,
        EffectiveNeverFalls (FamilyTable.build groups).1 family := by
  refine ⟨by decide, by decide, fun hall => ?_⟩
  have h := hall ["14,3,19"] ⟨0, [.lte, .umts, .lteCa]⟩ (by decide)
  have hsafe := h.aggregationSafe (FamilyTable.wellFormed_build _) (by decide)
  exact absurd hsafe (by decide)

end Ratchet

end CellularRegistration
