import CellularRegistration.Proofs.Family.Consistency

namespace CellularRegistration

namespace Family

/-- The members that a group adds to those that are claimed, and its fault. -/
inductive Contributes (claimed : List RadioTechnology) (group : String) :
    List RadioTechnology → Option RegistrationError → Prop where
  /-- Fewer than two entries count for nothing. -/
  | ignored {entries : List (List Char)} (hlists : Lists group entries)
      (hfew : entries.length < 2) : Contributes claimed group [] none
  | whole {entries : List (List Char)} {members : List RadioTechnology}
      (hlists : Lists group entries) (hmany : 2 ≤ entries.length)
      (hlongest : Longest claimed entries members) (hall : members.length = entries.length) :
      Contributes claimed group members none
  /-- The group is given up at the first entry that is refused. -/
  | abandoned {entries : List (List Char)} {members : List RadioTechnology} {entry : List Char}
      {fault : EntryFault} (hlists : Lists group entries) (hmany : 2 ≤ entries.length)
      (hlongest : Longest claimed entries members)
      (hentry : entries[members.length]? = some entry)
      (hrefused : RefusedFor (claimed ++ members) entry fault) :
      Contributes claimed group members
        (some (.malformedFamilyGroup group (String.ofList (Text.trim entry)) fault))

/-- The fault of a group whose entry was refused. -/
def malformed (group : String) (refusal : List Char × EntryFault) : RegistrationError :=
  .malformedFamilyGroup group (String.ofList (Text.trim refusal.1)) refusal.2

/-- The members and the fault that are read from a group. -/
def contribution (claimed : List RadioTechnology) (group : String) :
    List RadioTechnology × Option RegistrationError :=
  if (entries group).length < 2 then ([], none)
  else
    ((takeMembers claimed (entries group)).members,
      (takeMembers claimed (entries group)).refused.map (malformed group))

theorem contributes_contribution (claimed : List RadioTechnology) (group : String) :
    Contributes claimed group (contribution claimed group).1 (contribution claimed group).2 := by
  have hlists := lists_entries group
  unfold contribution
  split
  · next hfew => exact .ignored hlists hfew
  · next hmany =>
    have hmany := Nat.le_of_not_lt hmany
    have hlongest := longest_iff.2 (rfl : (takeMembers claimed (entries group)).members = _)
    cases hrefused : (takeMembers claimed (entries group)).refused with
    | none => exact .whole hlists hmany hlongest (refused_eq_none_iff.1 hrefused)
    | some refusal =>
      obtain ⟨hentry, hfault⟩ := refused_eq_some_iff.1 hrefused
      exact .abandoned hlists hmany hlongest hentry hfault

theorem Contributes.contribution_eq {claimed : List RadioTechnology} {group : String}
    {members : List RadioTechnology} {fault : Option RegistrationError}
    (h : Contributes claimed group members fault) :
    contribution claimed group = (members, fault) := by
  cases h with
  | ignored hlists hfew => rw [contribution, hlists.entries_eq, if_pos hfew]
  | whole hlists hmany hlongest hall =>
    obtain rfl := longest_iff.1 hlongest
    rw [contribution, hlists.entries_eq, if_neg (Nat.not_lt.2 hmany), refused_eq_none_iff.2 hall]
    rfl
  | abandoned hlists hmany hlongest hentry hrefused =>
    obtain rfl := longest_iff.1 hlongest
    rw [contribution, hlists.entries_eq, if_neg (Nat.not_lt.2 hmany),
      refused_eq_some_iff.2 ⟨hentry, hrefused⟩]
    rfl

end Family

namespace FamilyTable

theorem addGroup_eq (table : FamilyTable) (group : String) :
    table.addGroup group =
      (table.addFamily (Family.contribution table.claimed group).1,
        (Family.contribution table.claimed group).2) := by
  rw [addGroup, Family.contribution]
  split
  · rfl
  · rfl

theorem addGroups_append (table : FamilyTable) (groups more : List String) :
    table.addGroups (groups ++ more) =
      (((table.addGroups groups).1.addGroups more).1,
        (table.addGroups groups).2 ++ ((table.addGroups groups).1.addGroups more).2) := by
  induction groups generalizing table with
  | nil => rfl
  | cons group groups ih => simp only [List.cons_append, addGroups, ih, List.append_assoc]

theorem build_snoc (groups : List String) (group : String) :
    build (groups ++ [group]) =
      (((build groups).1.addGroup group).1,
        (build groups).2 ++ ((build groups).1.addGroup group).2.toList) := by
  rw [build, addGroups_append]
  simp only [addGroups, List.append_nil]
  rfl

/-- Some groups make these families and these faults. -/
inductive Builds : List String → List Family → List RegistrationError → Prop where
  | nil : Builds [] [] []
  | withoutFamily {groups : List String} {families : List Family}
      {faults : List RegistrationError} {group : String} {fault : Option RegistrationError}
      (h : Builds groups families faults)
      (hgroup : Family.Contributes (families.flatMap Family.members) group [] fault) :
      Builds (groups ++ [group]) families (faults ++ fault.toList)
  | withFamily {groups : List String} {families : List Family}
      {faults : List RegistrationError} {group : String} {members : List RadioTechnology}
      {fault : Option RegistrationError} (h : Builds groups families faults)
      (hgroup : Family.Contributes (families.flatMap Family.members) group members fault)
      (hmembers : members ≠ []) :
      Builds (groups ++ [group]) (families ++ [⟨families.length, members⟩])
        (faults ++ fault.toList)

theorem claimed_build (groups : List String) :
    (build groups).1.claimed = (build groups).1.families.flatMap Family.members := by
  simp [claimed, index_build, List.map_flatMap, Family.indexed, Function.comp_def]

theorem builds_build (groups : List String) :
    Builds groups (build groups).1.families (build groups).2 := by
  induction groups using List.reverseRecOn with
  | nil => exact .nil
  | append_singleton groups group ih =>
    have hgroup := Family.contributes_contribution (build groups).1.claimed group
    -- The technologies that the index holds are the members of the families so far.
    rw [build_snoc, addGroup_eq]
    rw [claimed_build] at hgroup ⊢
    by_cases hmembers :
        (Family.contribution ((build groups).1.families.flatMap Family.members) group).1 = []
    · rw [hmembers] at hgroup
      simp only [hmembers, addFamily, if_true]
      exact .withoutFamily ih hgroup
    · simp only [families_addFamily _ hmembers]
      exact .withFamily ih hgroup hmembers

theorem Builds.eq_build {groups : List String} {families : List Family}
    {faults : List RegistrationError} (h : Builds groups families faults) :
    (build groups).1.families = families ∧ (build groups).2 = faults := by
  induction h with
  | nil => exact ⟨rfl, rfl⟩
  | @withoutFamily groups families faults group fault _ hgroup ih =>
    obtain ⟨rfl, rfl⟩ := ih
    rw [← claimed_build] at hgroup
    rw [build_snoc, addGroup_eq, hgroup.contribution_eq]
    exact ⟨rfl, rfl⟩
  | @withFamily groups families faults group members fault _ hgroup hmembers ih =>
    obtain ⟨rfl, rfl⟩ := ih
    rw [← claimed_build] at hgroup
    rw [build_snoc, addGroup_eq, hgroup.contribution_eq]
    exact ⟨families_addFamily _ hmembers, rfl⟩

theorem builds_iff {groups : List String} {families : List Family}
    {faults : List RegistrationError} : Builds groups families faults ↔
      build groups = (⟨families, families.flatMap Family.indexed⟩, faults) := by
  constructor
  · intro h
    obtain ⟨rfl, rfl⟩ := h.eq_build
    rw [← index_build]
  · intro h
    have hbuilds := builds_build groups
    rwa [h] at hbuilds

theorem families_prefix_addGroups (table : FamilyTable) (groups : List String) :
    table.families <+: (table.addGroups groups).1.families := by
  induction groups generalizing table with
  | nil => exact List.prefix_rfl
  | cons group groups ih =>
    refine List.IsPrefix.trans ?_ (ih (table.addGroup group).1)
    rw [addGroup_eq]
    by_cases hmembers : (Family.contribution table.claimed group).1 = []
    · rw [hmembers]
      exact List.prefix_rfl
    · rw [families_addFamily _ hmembers]
      exact List.prefix_append _ _

/-- What some groups have made is still there after more groups: the families, each with its number
and with the ranks of its members, and the faults. -/
structure Extends (before after : FamilyTable × List RegistrationError) : Prop where
  families : before.1.families <+: after.1.families
  faults : before.2 <+: after.2
  familyId : ∀ technology i, before.1.familyId technology = some i →
    after.1.familyId technology = some i
  familyOf : ∀ technology family, before.1.familyOf technology = some family →
    after.1.familyOf technology = some family

theorem extends_append (groups more : List String) :
    Extends (build groups) (build (groups ++ more)) := by
  have hbuild := addGroups_append empty groups more
  have hfamilies : (build groups).1.families <+: (build (groups ++ more)).1.families := by
    rw [build, build, hbuild]
    exact families_prefix_addGroups _ more
  have hbefore := wellFormed_build groups
  have hafter := wellFormed_build (groups ++ more)
  constructor
  · exact hfamilies
  · rw [build, build, hbuild]
    exact List.prefix_append _ _
  · intro technology i hid
    obtain ⟨family, hget, hmem⟩ := (hbefore.familyId_eq_some_iff technology i).1 hid
    obtain ⟨later, hlater⟩ := hfamilies
    refine (hafter.familyId_eq_some_iff technology i).2 ⟨family, ?_, hmem⟩
    rw [← hlater, List.getElem?_append_left (List.getElem?_eq_some_iff.1 hget).1, hget]
  · intro technology family hfamily
    obtain ⟨hmem, hmember⟩ := hbefore.familyOf_eq_some_iff.1 hfamily
    exact hafter.familyOf_eq_some_iff.2 ⟨hfamilies.subset hmem, hmember⟩

/-- A table has the families and the faults that its groups make one after the other, and further
groups leave them as they are. -/
theorem build_accepts_prefixes (groups : List String) :
    (∀ families faults, Builds groups families faults ↔
      build groups = (⟨families, families.flatMap Family.indexed⟩, faults)) ∧
    ∀ more, Extends (build groups) (build (groups ++ more)) :=
  ⟨fun _ _ => builds_iff, extends_append groups⟩

/-- What follows a refused entry is free for later groups, and what came before it is not. -/
example : build ["1,2, x,3,,", "3,2,4", ",5", "6,,"] =
    (⟨[⟨0, [.gprs, .edge]⟩, ⟨1, [.umts]⟩], [(.gprs, 0), (.edge, 0), (.umts, 1)]⟩,
      [.malformedFamilyGroup "1,2, x,3,," "x" .unparseable,
        .malformedFamilyGroup "3,2,4" "2" .duplicate,
        .malformedFamilyGroup ",5" "" .unparseable]) := by
  decide

end FamilyTable

end CellularRegistration
