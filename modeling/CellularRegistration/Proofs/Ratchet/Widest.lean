import CellularRegistration.Proofs.Ratchet.Chain

namespace CellularRegistration

namespace ServiceState

/-- The total of some bandwidths in a counter of 64 bits, which would wrap around. -/
def totalInCounter (bandwidths : List UInt32) : UInt64 :=
  bandwidths.foldl (fun total khz => total + khz.toUInt64) 0

theorem totalBandwidth_cons (khz : UInt32) (bandwidths : List UInt32) :
    totalBandwidth (khz :: bandwidths) = khz.toNat + totalBandwidth bandwidths :=
  rfl

theorem totalBandwidth_le (bandwidths : List UInt32) :
    totalBandwidth bandwidths ≤ bandwidths.length * (UInt32.size - 1) := by
  induction bandwidths with
  | nil => exact Nat.le_refl 0
  | cons khz bandwidths ih =>
    rw [totalBandwidth_cons, List.length_cons, Nat.succ_mul, Nat.add_comm]
    exact Nat.add_le_add ih (Nat.le_sub_one_of_lt khz.toNat_lt_size)

theorem toNat_foldl_counter (bandwidths : List UInt32) {total : UInt64}
    (h : total.toNat + totalBandwidth bandwidths < UInt64.size) :
    (bandwidths.foldl (fun total khz => total + khz.toUInt64) total).toNat =
      total.toNat + totalBandwidth bandwidths := by
  induction bandwidths generalizing total with
  | nil => rfl
  | cons khz bandwidths ih =>
    rw [totalBandwidth_cons] at h ⊢
    have hfits : total.toNat + khz.toNat < UInt64.size := by omega
    have hadd : (total + khz.toUInt64).toNat = total.toNat + khz.toNat := by
      rw [UInt64.toNat_add, UInt32.toNat_toUInt64]
      exact Nat.mod_eq_of_lt hfits
    rw [List.foldl_cons, ih (by omega), hadd]
    omega

/-- The counter does not wrap around for fewer than `2 ^ 32` bandwidths. -/
theorem toNat_totalInCounter {bandwidths : List UInt32} (h : bandwidths.length < UInt32.size) :
    (totalInCounter bandwidths).toNat = totalBandwidth bandwidths := by
  have hfits : totalBandwidth bandwidths < UInt64.size :=
    calc totalBandwidth bandwidths
      _ ≤ bandwidths.length * (UInt32.size - 1) := totalBandwidth_le bandwidths
      _ ≤ UInt32.size * (UInt32.size - 1) := Nat.mul_le_mul_right _ (Nat.le_of_lt h)
      _ < UInt64.size := by decide
  rw [totalInCounter, toNat_foldl_counter bandwidths]
  · exact Nat.zero_add _
  · rwa [UInt64.toNat_zero, Nat.zero_add]

/-- Of some lists of bandwidths, this one has the largest total, and those with the same total come
before it. -/
def IsLatestWidest (lists : List (List UInt32)) (bandwidths : List UInt32) : Prop :=
  ∃ earlier later, lists = earlier ++ bandwidths :: later ∧
    (∀ other ∈ earlier, totalBandwidth other ≤ totalBandwidth bandwidths) ∧
    ∀ other ∈ later, totalBandwidth other < totalBandwidth bandwidths

theorem isLatestWidest_singleton (bandwidths : List UInt32) :
    IsLatestWidest [bandwidths] bandwidths :=
  ⟨[], [], rfl, by simp, by simp⟩

theorem IsLatestWidest.le {lists : List (List UInt32)} {bandwidths other : List UInt32}
    (h : IsLatestWidest lists bandwidths) (hother : other ∈ lists) :
    totalBandwidth other ≤ totalBandwidth bandwidths := by
  obtain ⟨earlier, later, rfl, hearlier, hlater⟩ := h
  rw [List.mem_append, List.mem_cons] at hother
  obtain hother | rfl | hother := hother
  · exact hearlier other hother
  · exact Nat.le_refl _
  · exact Nat.le_of_lt (hlater other hother)

/-- Widening the state that is reported next by the latest of the widest lists so far shows the
latest of the widest lists again. -/
theorem IsLatestWidest.snoc {lists : List (List UInt32)} {bandwidths : List UInt32}
    (h : IsLatestWidest lists bandwidths) (s : ServiceState) :
    IsLatestWidest (lists ++ [s.cellBandwidths]) (s.widen bandwidths).cellBandwidths := by
  by_cases hwider : s.aggregateBandwidth < totalBandwidth bandwidths
  · have hkept : (s.widen bandwidths).cellBandwidths = bandwidths := by
      rw [widen, if_pos hwider]
    obtain ⟨earlier, later, rfl, hearlier, hlater⟩ := h
    refine ⟨earlier, later ++ [s.cellBandwidths], ?_, ?_, ?_⟩
    · rw [hkept, List.append_assoc, List.cons_append]
    · rwa [hkept]
    · rw [hkept, List.forall_mem_append]
      exact ⟨hlater, List.forall_mem_singleton.2 hwider⟩
  -- A list with the same total comes before the one that is reported now, so the split is at the end.
  · have hreported : (s.widen bandwidths).cellBandwidths = s.cellBandwidths := by
      rw [widen, if_neg hwider]
    refine ⟨lists, [], ?_, fun other hother => ?_, by simp⟩
    · rw [hreported]
    · rw [hreported]
      exact Nat.le_trans (h.le hother) (Nat.le_of_not_lt hwider)

theorem le_aggregateBandwidth_widen (s : ServiceState) (bandwidths : List UInt32) :
    totalBandwidth bandwidths ≤ (s.widen bandwidths).aggregateBandwidth := by
  by_cases hwider : s.aggregateBandwidth < totalBandwidth bandwidths
  · rw [widen, if_pos hwider]
    exact Nat.le_refl _
  · rw [widen, if_neg hwider]
    exact Nat.le_of_not_lt hwider

end ServiceState

namespace Ratchet

open ServiceState

variable {table : FamilyTable} {latches : Latches} {old new : ServiceState} {moved : Bool}

/-- A step that finds the same family is one in place between related technologies. -/
theorem related_of_sameFamily_step
    (h : (step table latches old new moved).outcome.sameFamily = true) :
    moved = false ∧
      table.related old.effectiveDataTechnology new.effectiveDataTechnology = true := by
  cases moved with
  | true => cases h
  | false => exact ⟨rfl, sameFamily_step table latches old new ▸ h⟩

theorem cellBandwidths_step_of_sameFamily
    (h : (step table latches old new moved).outcome.sameFamily = true) :
    (step table latches old new moved).state.cellBandwidths =
      (new.widen old.cellBandwidths).cellBandwidths := by
  obtain ⟨rfl, hgate⟩ := related_of_sameFamily_step h
  exact cellBandwidths_step hgate

/-- While every report is of the same family as the state before it, which only happens in place, a
chain shows after each report the latest of the lists with the largest total so far, so that the
total never falls. Latches and families may be any, and a counter of 64 bits holds the totals. -/
theorem chain_showsLatestWidest {initial : ServiceState} {reports : List Report}
    (hsame : ∀ taken ∈ chain latches initial reports, taken.outcome.sameFamily = true) :
    (∀ i < reports.length, ∃ taken, (chain latches initial reports)[i]? = some taken ∧
      IsLatestWidest
        (initial.cellBandwidths ::
          (reports.take (i + 1)).map fun report => report.state.cellBandwidths)
        taken.state.cellBandwidths) ∧
    (initial :: (chain latches initial reports).map Step.state).IsChain
      (fun before after => before.aggregateBandwidth ≤ after.aggregateBandwidth) ∧
    ∀ bandwidths : List UInt32, bandwidths.length < UInt32.size →
      (totalInCounter bandwidths).toNat = totalBandwidth bandwidths := by
  refine ⟨?_, ?_, fun bandwidths => toNat_totalInCounter⟩
  · refine forall_chain (Q := fun _ => True)
      (T := fun seen _ state => IsLatestWidest
        (initial.cellBandwidths :: seen.map fun report => report.state.cellBandwidths)
        state.cellBandwidths) ?_ [] (isLatestWidest_singleton _) (by simp) hsame
    intro seen latches old report hold _ hstep
    rw [cellBandwidths_step_of_sameFamily hstep, List.map_append]
    exact hold.snoc report.state
  · refine (isChain_chain (I := fun _ _ => True) (Q := fun _ => True) ?_ trivial (by simp) hsame).2
    intro latches old report _ _ hstep
    refine ⟨trivial, ?_⟩
    rw [aggregateBandwidth, aggregateBandwidth, cellBandwidths_step_of_sameFamily hstep]
    exact le_aggregateBandwidth_widen report.state old.cellBandwidths

/-- With both latches off and other families at each report, the later of two lists with the same
total is taken, and then kept. -/
theorem showsLatestWidest_of_same_total :
    ∃ taken,
      (chain .disarmed { ServiceState.plain .umts false with cellBandwidths := [20000] }
        [.inPlace .empty { ServiceState.plain .umts false with cellBandwidths := [15000, 5000] },
          .inPlace (FamilyTable.build ["3,9"]).1
            { ServiceState.plain .hsdpa false with cellBandwidths := [10000] }])[1]? = some taken ∧
      taken.state.cellBandwidths = [15000, 5000] ∧
      IsLatestWidest [[20000], [15000, 5000], [10000]] taken.state.cellBandwidths := by
  have hall := (chain_showsLatestWidest (by decide : ∀ taken ∈
    chain .disarmed { ServiceState.plain .umts false with cellBandwidths := [20000] }
      [.inPlace .empty { ServiceState.plain .umts false with cellBandwidths := [15000, 5000] },
        .inPlace (FamilyTable.build ["3,9"]).1
          { ServiceState.plain .hsdpa false with cellBandwidths := [10000] }],
    taken.outcome.sameFamily = true)).1
  obtain ⟨taken, hget, hshows⟩ := hall 1 (by decide)
  refine ⟨taken, hget, ?_, hshows⟩
  obtain rfl := Option.some.inj hget
  rfl

end Ratchet

end CellularRegistration
