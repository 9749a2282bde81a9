import CellularRegistration.Carrier.Config
import CellularRegistration.Proofs.Family.Acceptance
import CellularRegistration.Proofs.Text.Trim

namespace CellularRegistration

namespace Family

/-- Two groups have the same entries between their commas, but for the white space around each. -/
def SameEntries (first second : String) : Prop :=
  List.Forall₂ Text.Alike (first.toList.splitOn ',') (second.toList.splitOn ',')

/-- A group lists two or more entries, and the last of them is blank. -/
def EndsBlank (group : String) : Prop :=
  ∃ listed last, Lists group (listed ++ [last]) ∧ listed ≠ [] ∧ Text.IsBlank last

theorem sameEntries_iff {first second : String} :
    SameEntries first second ↔
      (first.toList.splitOn ',').map Text.trim = (second.toList.splitOn ',').map Text.trim := by
  rw [← List.forall₂_eq_eq_eq, List.forall₂_map_left_iff, List.forall₂_map_right_iff, SameEntries]
  constructor
  · exact fun h => h.imp fun _ _ => Text.alike_iff.1
  · exact fun h => h.imp fun _ _ => Text.alike_iff.2

theorem endsBlank_iff {group : String} : EndsBlank group ↔
    2 ≤ (entries group).length ∧ ((entries group).map Text.trim).getLast? = some [] := by
  constructor
  · rintro ⟨listed, last, hlists, hlisted, hblank⟩
    have hpositive := List.length_pos_iff.2 hlisted
    rw [hlists.entries_eq, List.length_append, List.length_singleton, List.map_append,
      List.map_singleton, List.getLast?_concat, Text.trim_eq_nil_iff.2 hblank]
    exact ⟨by omega, rfl⟩
  · rintro ⟨hmany, hlast⟩
    obtain ⟨last, hget, hnil⟩ := Option.map_eq_some_iff.1 (List.getLast?_map.symm.trans hlast)
    obtain ⟨listed, hsplit⟩ := List.getLast?_eq_some_iff.1 hget
    have hlisted : listed ≠ [] := by
      rintro rfl
      rw [hsplit] at hmany
      simp at hmany
    exact ⟨listed, last, lists_iff.2 hsplit, hlisted, Text.trim_eq_nil_iff.1 hnil⟩

instance (first second : String) : Decidable (SameEntries first second) :=
  decidable_of_iff' _ sameEntries_iff

instance (group : String) : Decidable (EndsBlank group) :=
  decidable_of_iff' _ endsBlank_iff

/-- The entries of a group without the white space around them, up to the last that is not blank. -/
def stem (group : String) : List (List Char) :=
  ((group.toList.splitOn ',').map Text.trim).rdropWhile (· == [])

theorem SameEntries.stem_eq {first second : String} (h : SameEntries first second) :
    stem first = stem second := by
  rw [stem, stem, sameEntries_iff.1 h]

/-- What a group lists beyond its stem is blank. -/
theorem exists_map_trim_entries (group : String) :
    ∃ blanks, (entries group).map Text.trim = stem group ++ List.replicate blanks [] := by
  obtain ⟨dropped, hsplit⟩ := exists_rdropWhile_append_replicate (group.toList.splitOn ',')
  rw [← entries_eq_rdropWhile] at hsplit
  have htrimmed : (group.toList.splitOn ',').map Text.trim =
      (entries group).map Text.trim ++ List.replicate dropped [] := by
    rw [hsplit, List.map_append, List.map_replicate]
    rfl
  rw [stem, htrimmed, rdropWhile_append_replicate]
  exact exists_rdropWhile_append_replicate _

theorem getLast?_stem_ne (group : String) : (stem group).getLast? ≠ some [] := by
  intro hlast
  obtain ⟨listed, hstem⟩ := List.getLast?_eq_some_iff.1 hlast
  have hkept : (stem group).rdropWhile (· == []) = stem group := List.rdropWhile_idempotent _ _
  rw [hstem, List.rdropWhile_concat_pos _ _ _ (by rfl)] at hkept
  have hlength := (List.rdropWhile_prefix (· == []) listed).length_le
  rw [hkept, List.length_append, List.length_singleton] at hlength
  omega

/-- Without white space, two groups with the same entries list the same, but for the number of blank
entries at the end. -/
theorem SameEntries.exists_stem {first second : String} (h : SameEntries first second) :
    ∃ listed blanks blanks', listed.getLast? ≠ some [] ∧
      (entries first).map Text.trim = listed ++ List.replicate blanks [] ∧
      (entries second).map Text.trim = listed ++ List.replicate blanks' [] := by
  obtain ⟨blanks, hfirst⟩ := exists_map_trim_entries first
  obtain ⟨blanks', hsecond⟩ := exists_map_trim_entries second
  rw [h.stem_eq] at hfirst
  exact ⟨stem second, blanks, blanks', getLast?_stem_ne second, hfirst, hsecond⟩

theorem endsBlank_iff_of_map_trim_entries {group : String} {listed : List (List Char)} {blanks : Nat}
    (hlisted : listed.getLast? ≠ some [])
    (h : (entries group).map Text.trim = listed ++ List.replicate blanks []) :
    EndsBlank group ↔ 2 ≤ listed.length + blanks ∧ blanks ≠ 0 := by
  have hlength : (entries group).length = listed.length + blanks := by
    rw [← List.length_map Text.trim, h, List.length_append, List.length_replicate]
  rw [endsBlank_iff, hlength, h]
  cases blanks with
  | zero => simp [hlisted]
  | succ blanks => simp [List.replicate_succ', ← List.append_assoc]

section Reading

variable {claimed : List RadioTechnology} {listed : List (List Char)}

/-- What is read from the entries that a group lists. -/
def readListed (claimed : List RadioTechnology) (listed : List (List Char)) : Intake :=
  if listed.length < 2 then ⟨[], none⟩ else takeMembers claimed listed

/-- What is read from a group, if its entries are taken without the white space around them. -/
def readGroup (claimed : List RadioTechnology) (group : String) : Intake :=
  readListed claimed ((entries group).map Text.trim)

theorem readEntry_trim (claimed : List RadioTechnology) (entry : List Char) :
    readEntry claimed (Text.trim entry) = readEntry claimed entry := by
  rw [readEntry, readEntry, Text.trim_trim]

theorem takeMembers_map_trim (claimed : List RadioTechnology) (listed : List (List Char)) :
    takeMembers claimed (listed.map Text.trim) =
      ⟨(takeMembers claimed listed).members,
        (takeMembers claimed listed).refused.map fun (entry, fault) => (Text.trim entry, fault)⟩ := by
  induction listed generalizing claimed with
  | nil => rfl
  | cons entry listed ih =>
    simp only [List.map_cons, takeMembers, readEntry_trim]
    cases readEntry claimed entry with
    | error fault => rfl
    | ok technology => simp only [ih]

theorem contribution_eq_readGroup (claimed : List RadioTechnology) (group : String) :
    contribution claimed group =
      ((readGroup claimed group).members, (readGroup claimed group).refused.map (malformed group)) := by
  have hmalformed : (malformed group ∘ fun (entry, fault) => (Text.trim entry, fault)) =
      malformed group := by
    funext refusal
    simp only [Function.comp_apply, malformed, Text.trim_trim]
  rw [contribution, readGroup, readListed, List.length_map]
  split
  · rfl
  · rw [takeMembers_map_trim, Option.map_map, hmalformed]

/-- Blank entries at the end add no members. The first of them is refused, if none is before. -/
theorem takeMembers_append_blanks (claimed : List RadioTechnology) (listed : List (List Char))
    (blanks : Nat) :
    takeMembers claimed (listed ++ List.replicate blanks []) =
      ⟨(takeMembers claimed listed).members,
        (takeMembers claimed listed).refused.or
          (if blanks = 0 then none else some ([], .unparseable))⟩ := by
  induction listed generalizing claimed with
  | nil =>
    cases blanks with
    | zero => rfl
    | succ blanks => rfl
  | cons entry listed ih =>
    simp only [List.cons_append, takeMembers]
    cases readEntry claimed entry with
    | error fault => rfl
    | ok technology => simp only [ih]

theorem Accepts.weaken {claimed' : List RadioTechnology} {members : List RadioTechnology}
    (h : Accepts claimed listed members) (hsubset : claimed' ⊆ claimed) :
    Accepts claimed' listed members where
  exists_prefix := h.exists_prefix
  nodup := h.nodup
  not_claimed technology hmem hclaimed := h.not_claimed technology hmem (hsubset hclaimed)

/-- Where less is claimed, more is taken. -/
theorem members_prefix_of_nil (claimed : List RadioTechnology) (listed : List (List Char)) :
    (takeMembers claimed listed).members <+: (takeMembers [] listed).members :=
  ((accepts_takeMembers claimed listed).weaken (List.nil_subset _)).prefix_takeMembers

theorem length_members_le (claimed : List RadioTechnology) (listed : List (List Char)) :
    (takeMembers claimed listed).members.length ≤ listed.length := by
  have haccepts := accepts_takeMembers claimed listed
  obtain ⟨named, hprefix, hnames⟩ := haccepts.exists_prefix
  rw [← hnames.length_eq]
  exact hprefix.length_le

/-- An entry that is refused where nothing is claimed is one too many anywhere. -/
theorem refused_nil_of_refused (h : (takeMembers claimed listed).refused = none) :
    (takeMembers [] listed).refused = none := by
  rw [refused_eq_none_iff] at h ⊢
  have hmore := (members_prefix_of_nil claimed listed).length_le
  have hmost := length_members_le [] listed
  omega

variable {blanks blanks' : Nat}

theorem readListed_append_blanks (claimed : List RadioTechnology) (listed : List (List Char))
    (blanks : Nat) :
    readListed claimed (listed ++ List.replicate blanks []) =
      if listed.length + blanks < 2 then ⟨[], none⟩
      else ⟨(takeMembers claimed listed).members,
        (takeMembers claimed listed).refused.or
          (if blanks = 0 then none else some ([], .unparseable))⟩ := by
  rw [readListed, List.length_append, List.length_replicate, takeMembers_append_blanks]

theorem refused_readListed_eq_none_iff :
    (readListed claimed (listed ++ List.replicate blanks [])).refused = none ↔
      listed.length + blanks < 2 ∨ (takeMembers claimed listed).refused = none ∧ blanks = 0 := by
  rw [readListed_append_blanks]
  split
  · next hfew => simp [hfew]
  · next hmany => simp [hmany, Option.or_eq_none_iff]

/-- If the number of blank entries does not decide whether there is a fault where nothing is
claimed, then it decides nothing anywhere. -/
theorem readListed_eq_of_refused_iff
    (h : (readListed [] (listed ++ List.replicate blanks [])).refused = none ↔
      (readListed [] (listed ++ List.replicate blanks' [])).refused = none)
    (claimed : List RadioTechnology) :
    readListed claimed (listed ++ List.replicate blanks []) =
      readListed claimed (listed ++ List.replicate blanks' []) := by
  rw [refused_readListed_eq_none_iff, refused_readListed_eq_none_iff] at h
  -- Where one of the two is ignored, the other has no fault, and so it has no blank entries and is not
  -- longer.
  have hfew : listed.length + blanks < 2 ↔ listed.length + blanks' < 2 := by
    constructor
    · intro hfew
      obtain hfew' | ⟨-, hnone⟩ := h.1 (.inl hfew)
      · exact hfew'
      · omega
    · intro hfew'
      obtain hfew | ⟨-, hnone⟩ := h.2 (.inl hfew')
      · exact hfew
      · omega
  rw [readListed_append_blanks, readListed_append_blanks]
  by_cases hignored : listed.length + blanks < 2
  · rw [if_pos hignored, if_pos (hfew.1 hignored)]
  · have hread : ¬listed.length + blanks' < 2 := fun hless => hignored (hfew.2 hless)
    rw [if_neg hignored, if_neg hread]
    cases hrefused : (takeMembers claimed listed).refused with
    | some refusal => rfl
    | none =>
      have hblanks : blanks = 0 ↔ blanks' = 0 := by
        simpa [hignored, hread, refused_nil_of_refused hrefused] using h
      simp only [hblanks]

/-- If the number of blank entries does not decide whether there are members where nothing is
claimed, then it decides nothing about them anywhere. -/
theorem members_readListed_eq_of_iff
    (h : (readListed [] (listed ++ List.replicate blanks [])).members = [] ↔
      (readListed [] (listed ++ List.replicate blanks' [])).members = [])
    (claimed : List RadioTechnology) :
    (readListed claimed (listed ++ List.replicate blanks [])).members =
      (readListed claimed (listed ++ List.replicate blanks' [])).members := by
  have hnone : (takeMembers [] listed).members = [] → (takeMembers claimed listed).members = [] := by
    intro hnil
    have hprefix := members_prefix_of_nil claimed listed
    rw [hnil] at hprefix
    exact List.prefix_nil.1 hprefix
  simp only [readListed_append_blanks] at h ⊢
  by_cases hfew : listed.length + blanks < 2
  · rw [if_pos hfew] at h ⊢
    by_cases hfew' : listed.length + blanks' < 2
    · rw [if_pos hfew']
    · rw [if_neg hfew'] at h ⊢
      exact (hnone (h.1 rfl)).symm
  · rw [if_neg hfew] at h ⊢
    by_cases hfew' : listed.length + blanks' < 2
    · rw [if_pos hfew'] at h ⊢
      exact hnone (h.2 rfl)
    · rw [if_neg hfew']

/-- If both groups end with a blank entry or neither does, the number of blank entries decides
nothing. -/
theorem readListed_eq_of_blank_iff
    (h : 2 ≤ listed.length + blanks ∧ blanks ≠ 0 ↔ 2 ≤ listed.length + blanks' ∧ blanks' ≠ 0)
    (claimed : List RadioTechnology) :
    readListed claimed (listed ++ List.replicate blanks []) =
      readListed claimed (listed ++ List.replicate blanks' []) := by
  have hfew : listed.length + blanks < 2 ↔ listed.length + blanks' < 2 := by omega
  simp only [readListed_append_blanks, hfew]
  split
  · rfl
  · next hmany =>
    have hblanks : blanks = 0 ↔ blanks' = 0 := by omega
    simp only [hblanks]

end Reading

end Family

namespace FamilyTable

open Family

/-- A group has a fault, even if no other group has claimed anything. -/
def Faulty (group : String) : Prop :=
  (build [group]).2 ≠ []

/-- A group makes a family, if no other group has claimed anything. -/
def MakesFamily (group : String) : Prop :=
  (build [group]).1.families ≠ []

instance (group : String) : Decidable (Faulty group) :=
  inferInstanceAs (Decidable (_ ≠ _))

instance (group : String) : Decidable (MakesFamily group) :=
  inferInstanceAs (Decidable (_ ≠ _))

/-- Two faults are about entries of the same text, for the same reason. Their groups may differ. -/
inductive SameFault : RegistrationError → RegistrationError → Prop where
  | intro (first second entry : String) (reason : EntryFault) :
      SameFault (.malformedFamilyGroup first entry reason)
        (.malformedFamilyGroup second entry reason)

/-- Two lists of groups have made equal tables and the same faults. -/
structure SameOutcome (first second : FamilyTable × List RegistrationError) : Prop where
  table_eq : first.1 = second.1
  faults : List.Forall₂ SameFault first.2 second.2

theorem build_singleton (group : String) :
    build [group] = (empty.addFamily (contribution [] group).1, (contribution [] group).2.toList) := by
  simp only [build, addGroups, addGroup_eq, List.append_nil]
  rfl

theorem faulty_iff {group : String} :
    Faulty group ↔ (readGroup [] group).refused ≠ none := by
  rw [Faulty, build_singleton, contribution_eq_readGroup]
  cases (readGroup [] group).refused <;> simp

theorem makesFamily_iff {group : String} :
    MakesFamily group ↔ (readGroup [] group).members ≠ [] := by
  rw [MakesFamily, build_singleton, contribution_eq_readGroup]
  by_cases hmembers : (readGroup [] group).members = []
  · simp [hmembers, addFamily, empty]
  · simp [families_addFamily _ hmembers, hmembers]

/-- The blank entry is refused, if none before it is. -/
theorem faulty_of_endsBlank {group : String} (h : EndsBlank group) : Faulty group := by
  obtain ⟨blanks, hlisted⟩ := exists_map_trim_entries group
  obtain ⟨hmany, hblanks⟩ :=
    (endsBlank_iff_of_map_trim_entries (getLast?_stem_ne group) hlisted).1 h
  rw [faulty_iff, readGroup, hlisted, Ne, refused_readListed_eq_none_iff]
  rintro (hfew | ⟨-, hnone⟩)
  · omega
  · exact hblanks hnone

section SameEntries

variable {first second : String} (h : SameEntries first second)
include h

theorem readGroup_eq_of_endsBlank_iff (hblank : EndsBlank first ↔ EndsBlank second)
    (claimed : List RadioTechnology) : readGroup claimed first = readGroup claimed second := by
  obtain ⟨listed, blanks, blanks', hlisted, hfirst, hsecond⟩ := h.exists_stem
  rw [endsBlank_iff_of_map_trim_entries hlisted hfirst,
    endsBlank_iff_of_map_trim_entries hlisted hsecond] at hblank
  rw [readGroup, readGroup, hfirst, hsecond]
  exact readListed_eq_of_blank_iff hblank claimed

theorem readGroup_eq_of_faulty_iff (hfaulty : Faulty first ↔ Faulty second)
    (claimed : List RadioTechnology) : readGroup claimed first = readGroup claimed second := by
  obtain ⟨listed, blanks, blanks', -, hfirst, hsecond⟩ := h.exists_stem
  rw [faulty_iff, faulty_iff, readGroup, readGroup, hfirst, hsecond, not_iff_not] at hfaulty
  rw [readGroup, readGroup, hfirst, hsecond]
  exact readListed_eq_of_refused_iff hfaulty claimed

theorem members_eq_of_makesFamily_iff (hmakes : MakesFamily first ↔ MakesFamily second)
    (claimed : List RadioTechnology) :
    (readGroup claimed first).members = (readGroup claimed second).members := by
  obtain ⟨listed, blanks, blanks', -, hfirst, hsecond⟩ := h.exists_stem
  rw [makesFamily_iff, makesFamily_iff, readGroup, readGroup, hfirst, hsecond, not_iff_not] at hmakes
  rw [readGroup, readGroup, hfirst, hsecond]
  exact members_readListed_eq_of_iff hmakes claimed

end SameEntries

/-- A group adds the members that are read from it, and nothing else, to the table. -/
theorem addGroup_fst_congr {a b : String} {table : FamilyTable}
    (h : (readGroup table.claimed a).members = (readGroup table.claimed b).members) :
    (table.addGroup a).1 = (table.addGroup b).1 := by
  rw [addGroup_eq, addGroup_eq, contribution_eq_readGroup, contribution_eq_readGroup]
  simp only [h]

theorem sameFault_addGroup {a b : String} {table : FamilyTable}
    (h : readGroup table.claimed a = readGroup table.claimed b) :
    List.Forall₂ SameFault (table.addGroup a).2.toList (table.addGroup b).2.toList := by
  rw [addGroup_eq, addGroup_eq, contribution_eq_readGroup, contribution_eq_readGroup, h]
  cases (readGroup table.claimed b).refused with
  | none => exact .nil
  | some refusal => exact .cons (.intro a b _ _) .nil

/-- Groups from which the same members are read add the same families. -/
theorem addGroups_fst_congr {first second : List String}
    (h : List.Forall₂ (fun a b => ∀ claimed,
      (readGroup claimed a).members = (readGroup claimed b).members) first second)
    (table : FamilyTable) : (table.addGroups first).1 = (table.addGroups second).1 := by
  induction h generalizing table with
  | nil => rfl
  | @cons a b first second hread _ ih =>
    have htable : (table.addGroup a).1 = (table.addGroup b).1 := addGroup_fst_congr (hread _)
    simp only [addGroups, htable]
    exact ih (table.addGroup b).1

/-- Groups from which the same is read add the same families and the same faults. -/
theorem addGroups_congr {first second : List String}
    (h : List.Forall₂ (fun a b => ∀ claimed, readGroup claimed a = readGroup claimed b) first second)
    (table : FamilyTable) : SameOutcome (table.addGroups first) (table.addGroups second) := by
  induction h generalizing table with
  | nil => exact ⟨rfl, .nil⟩
  | @cons a b first second hread _ ih =>
    have htable : (table.addGroup a).1 = (table.addGroup b).1 :=
      addGroup_fst_congr (congrArg Intake.members (hread _))
    obtain ⟨hrest, hfaults⟩ := ih (table.addGroup b).1
    simp only [addGroups, htable]
    exact ⟨hrest, List.rel_append (sameFault_addGroup (hread _)) hfaults⟩

theorem addGroup_empty (table : FamilyTable) : table.addGroup "" = (table, none) :=
  rfl

theorem build_filter_ne_empty (groups : List String) :
    build (groups.filter (· != "")) = build groups := by
  have hgroups : ∀ table : FamilyTable,
      table.addGroups (groups.filter (· != "")) = table.addGroups groups := by
    induction groups with
    | nil => exact fun table => rfl
    | cons group groups ih =>
      intro table
      by_cases hempty : group = ""
      · rw [List.filter_cons_of_neg (by simp [hempty]), ih, hempty, addGroups, addGroup_empty]
        rfl
      · rw [List.filter_cons_of_pos (by simpa using hempty)]
        simp only [addGroups, ih]
  exact hgroups empty

theorem sameEntries_trimmed (group : String) : SameEntries group (Text.trimmed group) := by
  obtain ⟨before, after, hbefore, hafter, hgroup⟩ :=
    (Text.trims_trim group.toList).exists_blank
  rw [sameEntries_iff, Text.trimmed, String.toList_ofList]
  conv_lhs => rw [hgroup]
  exact Text.map_trim_splitOn_append (by decide) hbefore hafter

/-- The outcomes of two lists of groups are the same, as far as a blank entry at the end of a group
does not decide whether the group has a fault or makes a family. -/
structure AgreeButForBlanks (first second : List String)
    (outcome outcome' : FamilyTable × List RegistrationError) : Prop where
  same_of_endsBlank_iff : List.Forall₂ (fun a b => EndsBlank a ↔ EndsBlank b) first second →
    SameOutcome outcome outcome'
  same_of_faulty_iff : List.Forall₂ (fun a b => Faulty a ↔ Faulty b) first second →
    SameOutcome outcome outcome'
  table_eq_of_makesFamily_iff :
    List.Forall₂ (fun a b => MakesFamily a ↔ MakesFamily b) first second → outcome.1 = outcome'.1

theorem agreeButForBlanks_of_sameEntries {first second : List String}
    (h : List.Forall₂ SameEntries first second) :
    AgreeButForBlanks first second (build first) (build second) where
  same_of_endsBlank_iff hblank :=
    addGroups_congr (h.mp (fun _ _ => readGroup_eq_of_endsBlank_iff) hblank) empty
  same_of_faulty_iff hfaulty :=
    addGroups_congr (h.mp (fun _ _ => readGroup_eq_of_faulty_iff) hfaulty) empty
  table_eq_of_makesFamily_iff hmakes :=
    addGroups_fst_congr (h.mp (fun _ _ => members_eq_of_makesFamily_iff) hmakes) empty

/-- One group may stand for the other among any groups. -/
def Interchangeable (first second : String) : Prop :=
  ∀ before after, SameOutcome (build (before ++ first :: after)) (build (before ++ second :: after))

theorem interchangeable_iff {first second : String} (h : SameEntries first second) :
    Interchangeable first second ↔ (Faulty first ↔ Faulty second) := by
  constructor
  · intro hall
    have hlength : (build [first]).2.length = (build [second]).2.length :=
      (hall [] []).faults.length_eq
    rw [Faulty, Faulty, ← List.length_pos_iff, ← List.length_pos_iff, hlength]
  · intro hfaulty before after
    refine addGroups_congr (List.rel_append ?_ (.cons ?_ ?_)) empty
    · exact List.forall₂_same.2 fun _ _ _ => rfl
    · exact readGroup_eq_of_faulty_iff h hfaulty
    · exact List.forall₂_same.2 fun _ _ _ => rfl

/-- Two lists of groups with the same entries but for white space have the same outcome, unless a
blank entry at the end of a group decides whether there is a fault or a family. So have the groups
that a configuration keeps and those that it was given. -/
theorem build_ignores_spacing :
    (∀ first second, List.Forall₂ SameEntries first second →
      AgreeButForBlanks first second (build first) (build second)) ∧
    (∀ group, EndsBlank group → Faulty group) ∧
    (∀ first second, SameEntries first second →
      (Interchangeable first second ↔ (Faulty first ↔ Faulty second))) ∧
    ∀ groups, AgreeButForBlanks groups (groups.map Text.trimmed)
      (build (CarrierConfig.withFamilies groups).ratFamilies)
      (build (CarrierConfig.tidy groups)) := by
  refine ⟨fun _ _ => agreeButForBlanks_of_sameEntries, fun _ => faulty_of_endsBlank,
    fun _ _ => interchangeable_iff, ?_⟩
  intro groups
  have htidy : build (CarrierConfig.tidy groups) = build (groups.map Text.trimmed) :=
    build_filter_ne_empty _
  have hentries : List.Forall₂ SameEntries groups (groups.map Text.trimmed) :=
    List.forall₂_map_right_iff.2 (List.forall₂_same.2 fun group _ => sameEntries_trimmed group)
  rw [htidy]
  exact agreeButForBlanks_of_sameEntries hentries

/-- The entries are padded in different ways, and the last group has two blank entries at its end in
one list and four in the other. -/
theorem sameOutcome_of_padded_groups :
    List.Forall₂ SameEntries [" 9 ,10, x,11", "8, , ,,"] ["9,\t10,x ,11 ", "8,,, ,\u3000"] ∧
      List.Forall₂ (fun a b => EndsBlank a ↔ EndsBlank b) [" 9 ,10, x,11", "8, , ,,"]
        ["9,\t10,x ,11 ", "8,,, ,\u3000"] ∧
      SameOutcome (build [" 9 ,10, x,11", "8, , ,,"]) (build ["9,\t10,x ,11 ", "8,,, ,\u3000"]) := by
  have hentries : List.Forall₂ SameEntries [" 9 ,10, x,11", "8, , ,,"]
      ["9,\t10,x ,11 ", "8,,, ,\u3000"] := by decide
  have hblank : List.Forall₂ (fun a b => EndsBlank a ↔ EndsBlank b) [" 9 ,10, x,11", "8, , ,,"]
      ["9,\t10,x ,11 ", "8,,, ,\u3000"] := by decide
  exact ⟨hentries, hblank, (build_ignores_spacing.1 _ _ hentries).same_of_endsBlank_iff hblank⟩

/-- With white space after its last comma, a group of one technology has two entries. The technology
makes a family then, and there is a fault. -/
theorem family_of_lone_lte_before_blank :
    SameEntries "14, " "14," ∧ CarrierConfig.tidy ["14, "] = ["14,"] ∧
      build ["14,"] = (empty, []) ∧
      build ["14, "] =
        (⟨[⟨0, [.lte]⟩], [(.lte, 0)]⟩, [.malformedFamilyGroup "14, " "" .unparseable]) ∧
      (¬ ∀ first second, List.Forall₂ SameEntries first second →
        SameOutcome (build first) (build second)) ∧
      ¬ ∀ groups, (build (CarrierConfig.tidy groups)).1 =
        (build (CarrierConfig.withFamilies groups).ratFamilies).1 := by
  have hentries : SameEntries "14, " "14," := by decide
  have htidy : CarrierConfig.tidy ["14, "] = ["14,"] := by decide
  have htables : (build ["14, "]).1 ≠ (build ["14,"]).1 := by decide
  refine ⟨hentries, htidy, by decide, by decide, fun hall => ?_, fun hall => ?_⟩
  · exact htables (hall _ _ (.cons hentries .nil)).table_eq
  · have htable := hall ["14, "]
    rw [htidy] at htable
    exact htables htable.symm

end FamilyTable

end CellularRegistration
