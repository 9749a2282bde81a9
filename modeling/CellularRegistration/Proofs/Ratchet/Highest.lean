import CellularRegistration.Proofs.Family.Rank
import CellularRegistration.Proofs.Ratchet.Chain

namespace CellularRegistration.Ratchet

variable {table : FamilyTable} {family : Family} {d : Domain} {latches : Latches}
  {initial : ServiceState} {reports : List ServiceState}

/-- A state shows, for a domain whose latch is on, the highest technology of some states, and
carrier aggregation if one of them has it. -/
structure ShowsHighest (family : Family) (d : Domain) (seen : List ServiceState)
    (latches : Latches) (state : ServiceState) : Prop where
  technology :
    family.IsHighest (seen.map fun s => (s.record d).technology) (state.record d).technology
  carrierAggregation :
    (state.record d).carrierAggregation = seen.any fun s => (s.record d).carrierAggregation
  armed : latches.ofDomain d = true

theorem showsHighest_initial (harmed : latches.ofDomain d = true)
    (hmember : (initial.record d).technology ∈ family.members) :
    ShowsHighest family d [initial] latches initial where
  technology := by
    refine ⟨List.mem_singleton.2 rfl, fun other hother => ?_⟩
    rw [List.mem_singleton.1 hother]
    exact .refl hmember
  carrierAggregation := by simp
  armed := harmed

/-- A step shows the highest technology of the states before it and of the new one. -/
theorem ShowsHighest.step (htable : table.WellFormed) (hfamily : family ∈ table.families)
    {seen : List ServiceState} {old new : ServiceState} (h : ShowsHighest family d seen latches old)
    (hmember : (new.record d).technology ∈ family.members)
    (hsame : (step table latches old new false).outcome.sameFamily = true) :
    ShowsHighest family d (seen ++ [new]) (step table latches old new false).latches
      (step table latches old new false).state := by
  rw [sameFamily_step] at hsame
  constructor
  · rw [record_step hsame, h.armed, List.map_append]
    exact htable.isHighest_higher hfamily h.technology hmember
  · rw [record_step hsame, h.armed, List.any_append, ← h.carrierAggregation, List.any_cons,
      List.any_nil, Bool.or_false]
    rfl
  · exact latch_step_of_armed h.armed

/-- Along a chain, every step shows the highest technology of the states up to its own. -/
theorem ShowsHighest.along (htable : table.WellFormed) (hfamily : family ∈ table.families)
    {seen : List ServiceState} (h : ShowsHighest family d seen latches initial)
    (hmembers : ∀ new ∈ reports, (new.record d).technology ∈ family.members)
    (hsame : ∀ taken ∈ chainInPlace table latches initial reports,
      taken.outcome.sameFamily = true) :
    ∀ i < reports.length, ∃ taken,
      (chainInPlace table latches initial reports)[i]? = some taken ∧
      ShowsHighest family d (seen ++ reports.take (i + 1)) taken.latches taken.state := by
  refine forall_chainInPlace (T := ShowsHighest family d) ?_ h hmembers hsame
  intro seen latches old new hold hmember hsame
  exact hold.step htable hfamily hmember hsame

theorem ShowsHighest.last (htable : table.WellFormed) (hfamily : family ∈ table.families)
    (h : ShowsHighest family d [initial] latches initial)
    (hmembers : ∀ new ∈ reports, (new.record d).technology ∈ family.members)
    (hsame : ∀ taken ∈ chainInPlace table latches initial reports,
      taken.outcome.sameFamily = true)
    {last : Step} (hlast : last ∈ (chainInPlace table latches initial reports).getLast?) :
    ShowsHighest family d (initial :: reports) last.latches last.state := by
  rw [List.getLast?_eq_getElem?, length_chainInPlace] at hlast
  have hpos : 0 < reports.length := by
    rw [Nat.pos_iff_ne_zero]
    intro hzero
    rw [List.length_eq_zero_iff.1 hzero] at hlast
    cases hlast
  obtain ⟨taken, hget, hshows⟩ :=
    h.along htable hfamily hmembers hsame (reports.length - 1) (by omega)
  rw [Nat.sub_add_cancel hpos, List.take_length] at hshows
  obtain rfl := Option.some.inj (hget.symm.trans hlast)
  exact hshows

theorem rankLE_step (htable : table.WellFormed) (hfamily : family ∈ table.families)
    {old new : ServiceState} (harmed : latches.ofDomain d = true)
    (hold : (old.record d).technology ∈ family.members)
    (hnew : (new.record d).technology ∈ family.members)
    (hsame : (step table latches old new false).outcome.sameFamily = true) :
    family.RankLE (old.record d).technology
      ((step table latches old new false).state.record d).technology := by
  rw [sameFamily_step] at hsame
  rw [record_step hsame, harmed]
  exact (htable.rankLE_higher hfamily hold hnew).1

/-- While the device stays where it is and every report is of the same family as the state before
it, a domain whose latch is on at first shows after every report the highest technology of a family
so far. So its technology never goes down, and the order of the reports does not matter in the
end. -/
theorem chainInPlace_showsHighest {groups : List String}
    (hbuild : (FamilyTable.build groups).1 = table) (hfamily : family ∈ table.families)
    (harmed : latches.ofDomain d = true)
    (hmembers : ∀ state ∈ initial :: reports, (state.record d).technology ∈ family.members)
    (hsame : ∀ taken ∈ chainInPlace table latches initial reports,
      taken.outcome.sameFamily = true) :
    (∀ i < reports.length, ∃ taken,
      (chainInPlace table latches initial reports)[i]? = some taken ∧
      ShowsHighest family d (initial :: reports.take (i + 1)) taken.latches taken.state) ∧
    (initial :: (chainInPlace table latches initial reports).map Step.state).IsChain
      (fun before after =>
        family.RankLE (before.record d).technology (after.record d).technology) ∧
    ∀ other : List ServiceState, other.Perm reports →
      (∀ taken ∈ chainInPlace table latches initial other, taken.outcome.sameFamily = true) →
      ∀ last ∈ (chainInPlace table latches initial reports).getLast?,
      ∀ last' ∈ (chainInPlace table latches initial other).getLast?,
        (last'.state.record d).technology = (last.state.record d).technology ∧
        (last'.state.record d).carrierAggregation = (last.state.record d).carrierAggregation := by
  have htable : table.WellFormed := hbuild ▸ FamilyTable.wellFormed_build groups
  obtain ⟨hinitial, hreports⟩ := List.forall_mem_cons.1 hmembers
  have hstart := showsHighest_initial harmed hinitial
  refine ⟨hstart.along htable hfamily hreports hsame, ?_, ?_⟩
  · refine (isChain_chainInPlace (I := fun latches state =>
      latches.ofDomain d = true ∧ (state.record d).technology ∈ family.members)
      (fun latches old new hold hnew hsame => ?_) ⟨harmed, hinitial⟩ hreports hsame).2
    have hle := rankLE_step htable hfamily hold.1 hold.2 hnew hsame
    exact ⟨⟨latch_step_of_armed hold.1, hle.mem_right⟩, hle⟩
  · intro other hperm hsame' last hlast last' hlast'
    have hshows := hstart.last htable hfamily hreports hsame hlast
    have hshows' := hstart.last htable hfamily
      (fun new hnew => hreports new (hperm.mem_iff.1 hnew)) hsame' hlast'
    constructor
    · exact hshows'.technology.eq_of_mem_iff hshows.technology (by simp [hperm.mem_iff])
    · rw [hshows'.carrierAggregation, hshows.carrierAggregation, List.any_cons, List.any_cons,
        hperm.any_eq]

/-- A device that goes from UMTS to LTE with carrier aggregation and back is still shown with the
latter. -/
theorem showsHighest_after_return :
    ∃ taken,
      (chainInPlace (FamilyTable.build ["3,14,19"]).1 .armed (.plain .umts false)
        [.plain .lte true, .plain .umts false])[1]? = some taken ∧
      (taken.state.data.technology = .lte ∧ taken.state.data.carrierAggregation = true) ∧
      ShowsHighest ⟨0, [.umts, .lte, .lteCa]⟩ .ps
        [.plain .umts false, .plain .lte true, .plain .umts false] taken.latches taken.state := by
  have hall := chainInPlace_showsHighest (d := .ps)
    (rfl : (FamilyTable.build ["3,14,19"]).1 = _)
    (List.mem_singleton.2 rfl : (⟨0, [.umts, .lte, .lteCa]⟩ : Family) ∈ _)
    (rfl : Latches.armed.ofDomain .ps = true)
    (by decide : ∀ state ∈ [ServiceState.plain .umts false, .plain .lte true, .plain .umts false],
      (state.record .ps).technology ∈ _)
    (by decide)
  obtain ⟨taken, hget, hshows⟩ := hall.1 1 (by decide)
  refine ⟨taken, hget, ?_, hshows⟩
  obtain rfl := Option.some.inj hget
  exact ⟨rfl, rfl⟩

end CellularRegistration.Ratchet
