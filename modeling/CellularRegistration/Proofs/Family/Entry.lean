import CellularRegistration.Family.Entry
import Mathlib.Data.List.DropRight
import Mathlib.Data.List.Forall2
import Mathlib.Data.List.Nodup

namespace CellularRegistration

namespace Text

/-- A text writes an integer in decimal digits, with a sign or without. -/
inductive Writes : List Char → Int → Prop where
  | plain {digits : List Char} (hne : digits ≠ []) (hdigits : ∀ c ∈ digits, c.isDigit = true) :
      Writes digits (digitsValue digits)
  | plus {digits : List Char} (hne : digits ≠ []) (hdigits : ∀ c ∈ digits, c.isDigit = true) :
      Writes ('+' :: digits) (digitsValue digits)
  | minus {digits : List Char} (hne : digits ≠ []) (hdigits : ∀ c ∈ digits, c.isDigit = true) :
      Writes ('-' :: digits) (-(digitsValue digits : Int))

theorem natural?_eq_some_iff {s : List Char} {n : Nat} :
    natural? s = some n ↔ s ≠ [] ∧ (∀ c ∈ s, c.isDigit = true) ∧ digitsValue s = n := by
  simp only [natural?, Option.ite_none_right_eq_some, Option.some.injEq, List.all_eq_true, and_assoc]

theorem signed?_of_digits {digits : List Char} (hdigits : ∀ c ∈ digits, c.isDigit = true) :
    signed? digits = (natural? digits).map Int.ofNat := by
  unfold signed?
  split
  · exact absurd (hdigits '-' List.mem_cons_self) (by decide)
  · exact absurd (hdigits '+' List.mem_cons_self) (by decide)
  · cases natural? digits <;> rfl

theorem signed?_eq_some_iff {s : List Char} {n : Int} : signed? s = some n ↔ Writes s n := by
  constructor
  · intro h
    unfold signed? at h
    split at h
    all_goals
      simp only [Option.map_eq_some_iff, Option.bind_eq_bind, Option.pure_def,
        Option.bind_eq_some_iff, Option.some.injEq, natural?_eq_some_iff] at h
      obtain ⟨-, ⟨-, ⟨hne, hdigits, rfl⟩, rfl⟩, rfl⟩ := h
    · exact .minus hne hdigits
    · exact .plus hne hdigits
    · exact .plain hne hdigits
  · intro h
    cases h with
    | plain hne hdigits =>
      rw [signed?_of_digits hdigits, natural?_eq_some_iff.2 ⟨hne, hdigits, rfl⟩]
      rfl
    | plus hne hdigits =>
      rw [signed?, natural?_eq_some_iff.2 ⟨hne, hdigits, rfl⟩]
      rfl
    | minus hne hdigits =>
      rw [signed?, natural?_eq_some_iff.2 ⟨hne, hdigits, rfl⟩]
      rfl

theorem splitAt_eq_splitOn (sep : Char) (s : List Char) : splitAt sep s = s.splitOn sep := by
  induction s with
  | nil => rfl
  | cons c s ih =>
    rw [splitAt, List.splitOn_cons_eq_if_modifyHead, ih]
    by_cases hsep : c = sep
    · simp [hsep]
    · rw [if_neg hsep, if_neg (by simpa using hsep)]
      cases hpieces : s.splitOn sep with
      | nil => exact absurd hpieces (List.splitOn_ne_nil sep s)
      | cons piece pieces => rfl

theorem sep_not_mem_of_mem_splitAt {sep : Char} {s piece : List Char} (h : piece ∈ splitAt sep s) :
    sep ∉ piece := by
  induction s generalizing piece with
  | nil => simp_all [splitAt]
  | cons c s ih =>
    unfold splitAt at h
    split at h
    · obtain rfl | h := List.mem_cons.1 h
      · exact List.not_mem_nil
      · exact ih h
    · next hsep =>
      cases hpieces : splitAt sep s with
      | nil => exact absurd hpieces (splitAt_ne_nil sep s)
      | cons first pieces =>
        rw [hpieces] at h ih
        obtain rfl | h := List.mem_cons.1 h
        · rw [List.mem_cons, not_or]
          exact ⟨fun heq => hsep heq.symm, ih List.mem_cons_self⟩
        · exact ih (List.mem_cons_of_mem _ h)

end Text

namespace Family

/-- A group lists these entries between commas, after which there may be empty ones. -/
structure Lists (group : String) (entries : List (List Char)) : Prop where
  text : ∃ n, group.toList = [','].intercalate (entries ++ List.replicate n [])
  comma_not_mem : ∀ entry ∈ entries, ',' ∉ entry
  getLast_ne_nil : ∀ h : entries ≠ [], entries.getLast h ≠ []

theorem entries_eq_rdropWhile (group : String) :
    entries group = (group.toList.splitOn ',').rdropWhile (· == []) := by
  rw [entries, Text.splitAt_eq_splitOn, List.rdropWhile]

theorem rdropWhile_append_replicate (entries : List (List Char)) (n : Nat) :
    (entries ++ List.replicate n []).rdropWhile (· == []) = entries.rdropWhile (· == []) := by
  induction n with
  | zero => rw [List.replicate_zero, List.append_nil]
  | succ n ih =>
    rw [List.replicate_succ', ← List.append_assoc, List.rdropWhile_concat_pos _ _ _ (by rfl), ih]

theorem exists_rdropWhile_append_replicate (entries : List (List Char)) :
    ∃ n, entries = entries.rdropWhile (· == []) ++ List.replicate n [] := by
  have hdropped : ∀ entry ∈ entries.rtakeWhile (· == []), entry = [] :=
    fun entry hentry => by simpa using List.mem_rtakeWhile_imp hentry
  refine ⟨(entries.rtakeWhile (· == [])).length, ?_⟩
  rw [← List.eq_replicate_of_mem hdropped, List.rdropWhile_append_rtakeWhile]

theorem lists_entries (group : String) : Lists group (entries group) := by
  obtain ⟨n, hsplit⟩ := exists_rdropWhile_append_replicate (group.toList.splitOn ',')
  rw [← entries_eq_rdropWhile] at hsplit
  constructor
  · refine ⟨n, ?_⟩
    rw [← hsplit, List.intercalate_splitOn]
  · intro entry hentry
    refine Text.sep_not_mem_of_mem_splitAt (s := group.toList) ?_
    rw [Text.splitAt_eq_splitOn, hsplit]
    exact List.mem_append_left _ hentry
  · intro hne
    simp only [entries_eq_rdropWhile] at hne ⊢
    simpa using List.rdropWhile_last_not _ _ hne

theorem Lists.entries_eq {group : String} {listed : List (List Char)} (h : Lists group listed) :
    entries group = listed := by
  obtain ⟨n, htext⟩ := h.text
  have hpieces : ∀ piece ∈ listed ++ List.replicate n [], ',' ∉ piece := by
    intro piece hpiece
    obtain hpiece | hpiece := List.mem_append.1 hpiece
    · exact h.comma_not_mem piece hpiece
    · rw [List.eq_of_mem_replicate hpiece]
      exact List.not_mem_nil
  have hkept : listed.rdropWhile (· == []) = listed :=
    List.rdropWhile_eq_self_iff.2 (by simpa using h.getLast_ne_nil)
  rw [entries_eq_rdropWhile, htext]
  by_cases hne : listed ++ List.replicate n [] = []
  · rw [hne, (List.append_eq_nil_iff.1 hne).1]
    rfl
  · rw [List.splitOn_intercalate ',' hpieces hne, rdropWhile_append_replicate, hkept]

theorem lists_iff {group : String} {listed : List (List Char)} :
    Lists group listed ↔ entries group = listed :=
  ⟨Lists.entries_eq, fun h => h ▸ lists_entries group⟩

/-- An entry gives an integer of 64 bits. White space around it does not count. -/
structure Gives (entry : List Char) (n : Int) : Prop where
  writes : Text.Writes (Text.trim entry) n
  min_le : -9223372036854775808 ≤ n
  le_max : n ≤ 9223372036854775807

theorem gives_iff {entry : List Char} {n : Int} :
    Gives entry n ↔ ∃ code : Int64,
      (Text.signed? (Text.trim entry)).bind Word.int64.ofInt? = some code ∧ code.toInt = n := by
  simp only [Option.bind_eq_some_iff, Text.signed?_eq_some_iff, Word.int64.ofInt?_eq_some_iff]
  constructor
  · intro h
    have hrange : (Int64.ofInt n).toInt = n :=
      Int64.toInt_ofInt_of_le h.min_le (Int.lt_add_one_of_le h.le_max)
    exact ⟨.ofInt n, ⟨n, h.writes, hrange⟩, hrange⟩
  · rintro ⟨code, ⟨_, hwrites, hcode⟩, rfl⟩
    obtain rfl := hcode
    exact ⟨hwrites, code.le_toInt, Int.le_of_lt_add_one code.toInt_lt⟩

/-- No integer beyond a byte is taken for a code. -/
theorem technologyOf?_eq_some_iff {code : Int64} {technology : RadioTechnology} :
    technologyOf? code = some technology ↔ (technology.code : Int) = code.toInt := by
  simp only [technologyOf?, Option.bind_eq_some_iff, Word.uint8.ofInt?_eq_some_iff,
    RadioTechnology.ofCode?_eq_some_iff]
  constructor
  · rintro ⟨byte, hbyte, hcode⟩
    exact hcode.trans hbyte
  · intro hcode
    have hbyte : (UInt8.ofNat technology.code).toNat = technology.code := by
      cases technology <;> rfl
    exact ⟨.ofNat technology.code, (congrArg Nat.cast hbyte).trans hcode, congrArg Nat.cast hbyte.symm⟩

/-- Why an entry is refused while some technologies are claimed. -/
inductive RefusedFor (claimed : List RadioTechnology) (entry : List Char) : EntryFault → Prop where
  | unparseable (h : ∀ n, ¬Gives entry n) : RefusedFor claimed entry .unparseable
  | unknownTechnology {n : Int} (h : Gives entry n)
      (hunknown : ∀ technology : RadioTechnology, (technology.code : Int) ≠ n) :
      RefusedFor claimed entry .unknownTechnology
  | duplicate {technology : RadioTechnology} (h : Gives entry technology.code)
      (hclaimed : technology ∈ claimed) : RefusedFor claimed entry .duplicate

section ReadEntry

variable {claimed : List RadioTechnology} {entry : List Char} {technology : RadioTechnology}

theorem readEntry_of_not_gives (h : ∀ n, ¬Gives entry n) :
    readEntry claimed entry = .error .unparseable := by
  unfold readEntry
  cases hcode : (Text.signed? (Text.trim entry)).bind Word.int64.ofInt? with
  | none => rfl
  | some code => exact absurd (gives_iff.2 ⟨code, hcode, rfl⟩) (h code.toInt)

theorem readEntry_of_unknown {n : Int} (h : Gives entry n)
    (hunknown : ∀ technology : RadioTechnology, (technology.code : Int) ≠ n) :
    readEntry claimed entry = .error .unknownTechnology := by
  obtain ⟨code, hcode, rfl⟩ := gives_iff.1 h
  have hnone : technologyOf? code = none :=
    Option.eq_none_iff_forall_ne_some.2 fun technology hfound =>
      hunknown technology (technologyOf?_eq_some_iff.1 hfound)
  simp only [readEntry, hcode, hnone]

theorem readEntry_of_gives (h : Gives entry technology.code) :
    readEntry claimed entry =
      if technology ∈ claimed then .error .duplicate else .ok technology := by
  obtain ⟨code, hcode, hvalue⟩ := gives_iff.1 h
  have hfound := technologyOf?_eq_some_iff.2 hvalue.symm
  simp only [readEntry, hcode, hfound]

theorem gives_cases (entry : List Char) :
    (∀ n, ¬Gives entry n) ∨
      (∃ n, Gives entry n ∧ ∀ technology : RadioTechnology, (technology.code : Int) ≠ n) ∨
      ∃ technology : RadioTechnology, Gives entry technology.code := by
  by_cases hgives : ∃ n, Gives entry n
  · obtain ⟨n, hgives⟩ := hgives
    by_cases hknown : ∃ technology : RadioTechnology, (technology.code : Int) = n
    · obtain ⟨technology, rfl⟩ := hknown
      exact .inr (.inr ⟨technology, hgives⟩)
    · exact .inr (.inl ⟨n, hgives, not_exists.1 hknown⟩)
  · exact .inl (not_exists.1 hgives)

theorem readEntry_eq_ok_iff : readEntry claimed entry = .ok technology ↔
    Gives entry technology.code ∧ technology ∉ claimed := by
  constructor
  · intro h
    obtain hnone | ⟨n, hgives, hunknown⟩ | ⟨found, hgives⟩ := gives_cases entry
    · rw [readEntry_of_not_gives hnone] at h
      cases h
    · rw [readEntry_of_unknown hgives hunknown] at h
      cases h
    · rw [readEntry_of_gives hgives] at h
      split at h
      · cases h
      · next hfree =>
        obtain rfl := Except.ok.inj h
        exact ⟨hgives, hfree⟩
  · rintro ⟨hgives, hfree⟩
    rw [readEntry_of_gives hgives, if_neg hfree]

theorem readEntry_eq_error_iff {fault : EntryFault} :
    readEntry claimed entry = .error fault ↔ RefusedFor claimed entry fault := by
  constructor
  · intro h
    obtain hnone | ⟨n, hgives, hunknown⟩ | ⟨found, hgives⟩ := gives_cases entry
    · rw [readEntry_of_not_gives hnone] at h
      obtain rfl := Except.error.inj h
      exact .unparseable hnone
    · rw [readEntry_of_unknown hgives hunknown] at h
      obtain rfl := Except.error.inj h
      exact .unknownTechnology hgives hunknown
    · rw [readEntry_of_gives hgives] at h
      split at h
      · next hclaimed =>
        obtain rfl := Except.error.inj h
        exact .duplicate hgives hclaimed
      · cases h
  · intro h
    cases h with
    | unparseable hnone => exact readEntry_of_not_gives hnone
    | unknownTechnology hgives hunknown => exact readEntry_of_unknown hgives hunknown
    | duplicate hgives hclaimed => rw [readEntry_of_gives hgives, if_pos hclaimed]

theorem RefusedFor.mono {claimed' : List RadioTechnology} {fault : EntryFault}
    (h : RefusedFor claimed entry fault) (hsubset : claimed ⊆ claimed') :
    RefusedFor claimed' entry fault := by
  cases h with
  | unparseable hnone => exact .unparseable hnone
  | unknownTechnology hgives hunknown => exact .unknownTechnology hgives hunknown
  | duplicate hgives hclaimed => exact .duplicate hgives (hsubset hclaimed)

end ReadEntry

/-- A prefix of the entries names these members. None is named twice, and none is claimed. -/
structure Accepts (claimed : List RadioTechnology) (entries : List (List Char))
    (members : List RadioTechnology) : Prop where
  exists_prefix : ∃ named, named <+: entries ∧
    List.Forall₂ (fun entry (technology : RadioTechnology) => Gives entry technology.code)
      named members
  nodup : members.Nodup
  not_claimed : ∀ technology ∈ members, technology ∉ claimed

/-- The longest such members. -/
structure Longest (claimed : List RadioTechnology) (entries : List (List Char))
    (members : List RadioTechnology) : Prop where
  accepts : Accepts claimed entries members
  length_le : ∀ others, Accepts claimed entries others → others.length ≤ members.length

section TakeMembers

variable {claimed : List RadioTechnology} {entries : List (List Char)}
  {members : List RadioTechnology}

theorem accepts_nil (claimed : List RadioTechnology) (entries : List (List Char)) :
    Accepts claimed entries [] where
  exists_prefix := ⟨[], List.nil_prefix, .nil⟩
  nodup := .nil
  not_claimed := by simp

theorem accepts_cons_cons_iff {entry : List Char} {technology : RadioTechnology} :
    Accepts claimed (entry :: entries) (technology :: members) ↔
      readEntry claimed entry = .ok technology ∧
        Accepts (technology :: claimed) entries members := by
  rw [readEntry_eq_ok_iff]
  constructor
  · rintro ⟨⟨named, hprefix, hnames⟩, hnodup, hfree⟩
    obtain ⟨hnew, hnodup⟩ := List.nodup_cons.1 hnodup
    obtain ⟨hfirst, hfree⟩ := List.forall_mem_cons.1 hfree
    obtain ⟨first, named, hgives, htail, rfl⟩ := List.forall₂_cons_right_iff.1 hnames
    obtain ⟨rfl, hrest⟩ := List.cons_prefix_cons.1 hprefix
    refine ⟨⟨hgives, hfirst⟩, ⟨named, hrest, htail⟩, hnodup, fun other hother => ?_⟩
    rw [List.mem_cons, not_or]
    exact ⟨fun heq => hnew (heq ▸ hother), hfree other hother⟩
  · rintro ⟨⟨hgives, hfirst⟩, ⟨named, hprefix, hnames⟩, hnodup, hfree⟩
    have hnew : technology ∉ members := fun hmem => hfree technology hmem List.mem_cons_self
    refine ⟨⟨entry :: named, List.cons_prefix_cons.2 ⟨rfl, hprefix⟩, .cons hgives hnames⟩,
      List.nodup_cons.2 ⟨hnew, hnodup⟩, List.forall_mem_cons.2 ⟨hfirst, fun other hother => ?_⟩⟩
    exact fun hclaimed => hfree other hother (List.mem_cons_of_mem _ hclaimed)

theorem accepts_takeMembers (claimed : List RadioTechnology) (entries : List (List Char)) :
    Accepts claimed entries (takeMembers claimed entries).members := by
  induction entries generalizing claimed with
  | nil => exact accepts_nil claimed []
  | cons entry entries ih =>
    unfold takeMembers
    cases hread : readEntry claimed entry with
    | error fault => exact accepts_nil claimed _
    | ok technology => exact accepts_cons_cons_iff.2 ⟨hread, ih _⟩

/-- Whatever a prefix of the entries may name is taken. -/
theorem Accepts.prefix_takeMembers (h : Accepts claimed entries members) :
    members <+: (takeMembers claimed entries).members := by
  -- What is claimed grows by each member that is taken, so it is general in the induction.
  induction entries generalizing claimed members with
  | nil =>
    obtain ⟨named, hprefix, hnames⟩ := h.exists_prefix
    obtain rfl := List.prefix_nil.1 hprefix
    rw [List.forall₂_nil_left_iff.1 hnames]
    exact List.nil_prefix
  | cons entry entries ih =>
    cases members with
    | nil => exact List.nil_prefix
    | cons technology members =>
      obtain ⟨hread, hrest⟩ := accepts_cons_cons_iff.1 h
      simp only [takeMembers, hread, List.cons_prefix_cons, true_and]
      exact ih hrest

theorem longest_iff :
    Longest claimed entries members ↔ (takeMembers claimed entries).members = members := by
  constructor
  · intro h
    have hlength := h.length_le _ (accepts_takeMembers claimed entries)
    exact (h.accepts.prefix_takeMembers.eq_of_length_le hlength).symm
  · rintro rfl
    exact ⟨accepts_takeMembers claimed entries, fun _ h => h.prefix_takeMembers.length_le⟩

/-- If no entry is refused, each names a member. -/
theorem length_takeMembers_of_none (h : (takeMembers claimed entries).refused = none) :
    (takeMembers claimed entries).members.length = entries.length := by
  induction entries generalizing claimed with
  | nil => rfl
  | cons entry entries ih =>
    cases hread : readEntry claimed entry with
    | error fault => simp [takeMembers, hread] at h
    | ok technology =>
      simp only [takeMembers, hread] at h
      simp only [takeMembers, hread, List.length_cons, ih h]

/-- The entry that is refused is the first that names no member. -/
theorem refusedFor_takeMembers {entry : List Char} {fault : EntryFault}
    (h : (takeMembers claimed entries).refused = some (entry, fault)) :
    entries[(takeMembers claimed entries).members.length]? = some entry ∧
      RefusedFor (claimed ++ (takeMembers claimed entries).members) entry fault := by
  induction entries generalizing claimed with
  | nil => cases h
  | cons first entries ih =>
    cases hread : readEntry claimed first with
    | error error =>
      simp only [takeMembers, hread, Option.some.injEq, Prod.mk.injEq] at h
      obtain ⟨rfl, rfl⟩ := h
      simp only [takeMembers, hread, List.append_nil]
      exact ⟨rfl, readEntry_eq_error_iff.1 hread⟩
    | ok technology =>
      simp only [takeMembers, hread] at h
      simp only [takeMembers, hread, List.length_cons, List.getElem?_cons_succ]
      -- The same technologies are claimed, listed in another order.
      obtain ⟨hentry, hrefused⟩ := ih h
      refine ⟨hentry, hrefused.mono fun other hother => ?_⟩
      simpa [or_left_comm, or_assoc] using hother

theorem refused_eq_none_iff : (takeMembers claimed entries).refused = none ↔
    (takeMembers claimed entries).members.length = entries.length := by
  refine ⟨length_takeMembers_of_none, fun hlength => ?_⟩
  rw [Option.eq_none_iff_forall_ne_some]
  rintro ⟨entry, fault⟩ h
  obtain ⟨hentry, -⟩ := refusedFor_takeMembers h
  rw [hlength, List.getElem?_eq_none (Nat.le_refl _)] at hentry
  cases hentry

theorem refused_eq_some_iff {entry : List Char} {fault : EntryFault} :
    (takeMembers claimed entries).refused = some (entry, fault) ↔
      entries[(takeMembers claimed entries).members.length]? = some entry ∧
        RefusedFor (claimed ++ (takeMembers claimed entries).members) entry fault := by
  refine ⟨refusedFor_takeMembers, fun ⟨hentry, hfault⟩ => ?_⟩
  cases h : (takeMembers claimed entries).refused with
  | none =>
    rw [refused_eq_none_iff.1 h, List.getElem?_eq_none (Nat.le_refl _)] at hentry
    cases hentry
  | some refusal =>
    obtain ⟨first, reason⟩ := refusal
    obtain ⟨hentry', hfault'⟩ := refusedFor_takeMembers h
    obtain rfl := Option.some.inj (hentry'.symm.trans hentry)
    rw [← readEntry_eq_error_iff] at hfault hfault'
    obtain rfl := Except.error.inj (hfault'.symm.trans hfault)
    rfl

end TakeMembers

end Family

end CellularRegistration
