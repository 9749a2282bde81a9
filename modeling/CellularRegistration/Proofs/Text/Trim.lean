import CellularRegistration.Text.Blank
import Mathlib.Data.List.DropRight
import Mathlib.Data.List.Forall2

namespace CellularRegistration.Text

/-- White space and nothing else. -/
def IsBlank (s : List Char) : Prop :=
  ∀ c ∈ s, isBlank c = true

/-- The rest of a text without the white space at its ends. -/
structure Trims (s rest : List Char) : Prop where
  exists_blank : ∃ before after, IsBlank before ∧ IsBlank after ∧ s = before ++ rest ++ after
  not_blank_of_head : ∀ c ∈ rest.head?, isBlank c = false
  not_blank_of_getLast : ∀ c ∈ rest.getLast?, isBlank c = false

/-- Two texts are the same but for the white space at their ends. -/
def Alike (first second : List Char) : Prop :=
  ∃ rest, Trims first rest ∧ Trims second rest

variable {s rest before after : List Char}

theorem isBlank_nil : IsBlank [] :=
  List.forall_mem_nil _

theorem trimEnd_eq_rdropWhile (s : List Char) : trimEnd s = s.rdropWhile isBlank :=
  rfl

theorem dropWhile_eq_self_of_head (h : ∀ c ∈ s.head?, isBlank c = false) :
    s.dropWhile isBlank = s := by
  cases s with
  | nil => rfl
  | cons c s =>
    have hc : isBlank c = false := h c rfl
    rw [List.dropWhile_cons_of_neg (by simp [hc])]

theorem trimStart_append (hbefore : IsBlank before) : trimStart (before ++ s) = trimStart s :=
  List.dropWhile_append_of_pos hbefore

theorem trimEnd_append (hafter : IsBlank after) : trimEnd (s ++ after) = trimEnd s := by
  have hreverse : ∀ c ∈ after.reverse, isBlank c = true := by simpa [IsBlank] using hafter
  rw [trimEnd, List.reverse_append, List.dropWhile_append_of_pos hreverse, trimEnd]

theorem trimEnd_eq_self (h : ∀ c ∈ s.getLast?, isBlank c = false) : trimEnd s = s := by
  have hhead : ∀ c ∈ s.reverse.head?, isBlank c = false := by rwa [List.head?_reverse]
  rw [trimEnd, dropWhile_eq_self_of_head hhead, List.reverse_reverse]

theorem trims_trim (s : List Char) : Trims s (trim s) := by
  have hprefix : trim s <+: trimStart s := List.rdropWhile_prefix _ _
  refine ⟨⟨s.takeWhile isBlank, (trimStart s).rtakeWhile isBlank, ?_, ?_, ?_⟩, ?_, ?_⟩
  · exact fun c hc => List.mem_takeWhile_imp hc
  · exact fun c hc => List.mem_rtakeWhile_imp hc
  · rw [List.append_assoc, trim, trimEnd_eq_rdropWhile, List.rdropWhile_append_rtakeWhile, trimStart,
      List.takeWhile_append_dropWhile]
  · -- What is taken off the end leaves the first character as it is, unless nothing is left.
    intro c hc
    obtain ⟨tail, htail⟩ := hprefix
    have hhead : c ∈ (trimStart s).head? := by
      rw [← htail, List.head?_append, Option.mem_def.1 hc]
      rfl
    have hnot := List.head?_dropWhile_not isBlank s
    rw [trimStart] at hhead
    rw [Option.mem_def.1 hhead] at hnot
    exact hnot
  · intro c hc
    have hne : trim s ≠ [] := by
      rintro hnil
      rw [hnil] at hc
      cases hc
    have hlast : ¬isBlank ((trim s).getLast hne) = true :=
      List.rdropWhile_last_not isBlank (trimStart s) hne
    rw [List.getLast?_eq_some_getLast hne] at hc
    obtain rfl := Option.some.inj hc
    exact Bool.eq_false_iff.2 hlast

theorem Trims.trim_eq (h : Trims s rest) : trim s = rest := by
  obtain ⟨before, after, hbefore, hafter, rfl⟩ := h.exists_blank
  rw [trim, List.append_assoc, trimStart_append hbefore]
  by_cases hrest : rest = []
  · subst hrest
    have hnil : trimStart ([] ++ after) = [] := List.dropWhile_eq_nil_iff.2 hafter
    rw [hnil]
    rfl
  · have hhead : ∀ c ∈ (rest ++ after).head?, isBlank c = false := by
      rw [List.head?_append_of_ne_nil _ hrest]
      exact h.not_blank_of_head
    rw [trimStart, dropWhile_eq_self_of_head hhead, trimEnd_append hafter,
      trimEnd_eq_self h.not_blank_of_getLast]

theorem trims_iff : Trims s rest ↔ rest = trim s :=
  ⟨fun h => h.trim_eq.symm, fun h => h ▸ trims_trim s⟩

theorem trim_trim (s : List Char) : trim (trim s) = trim s :=
  Trims.trim_eq {
    exists_blank := ⟨[], [], isBlank_nil, isBlank_nil, by simp⟩
    not_blank_of_head := (trims_trim s).not_blank_of_head
    not_blank_of_getLast := (trims_trim s).not_blank_of_getLast }

theorem trim_eq_nil_iff : trim s = [] ↔ IsBlank s := by
  constructor
  · intro h
    obtain ⟨before, after, hbefore, hafter, hs⟩ := (trims_trim s).exists_blank
    rw [h, List.append_nil] at hs
    rw [hs]
    exact List.forall_mem_append.2 ⟨hbefore, hafter⟩
  · intro h
    have hnone : ∀ c ∈ ([] : List Char).head?, isBlank c = false := by simp
    exact Trims.trim_eq ⟨⟨s, [], h, isBlank_nil, by simp⟩, hnone, hnone⟩

theorem alike_iff {first second : List Char} : Alike first second ↔ trim first = trim second := by
  simp only [Alike, trims_iff]
  exact exists_eq_left

theorem trim_append_right (hafter : IsBlank after) : trim (s ++ after) = trim s := by
  obtain ⟨front, back, hfront, hback, hs⟩ := (trims_trim s).exists_blank
  refine Trims.trim_eq ⟨⟨front, back ++ after, hfront, ?_, ?_⟩, (trims_trim s).not_blank_of_head,
    (trims_trim s).not_blank_of_getLast⟩
  · exact List.forall_mem_append.2 ⟨hback, hafter⟩
  · rw [← List.append_assoc, ← hs]

theorem trim_append_left (hbefore : IsBlank before) : trim (before ++ s) = trim s := by
  rw [trim, trimStart_append hbefore, trim]

section Pieces

variable {sep : Char}

theorem IsBlank.sep_not_mem (h : IsBlank s) (hsep : isBlank sep = false) : sep ∉ s := by
  intro hmem
  rw [h sep hmem] at hsep
  cases hsep

/-- What stands in front of a text goes to its first piece. -/
theorem splitOn_append_left (hbefore : sep ∉ before) :
    (before ++ s).splitOn sep = (s.splitOn sep).modifyHead (before ++ ·) := by
  induction before with
  | nil => exact (congrFun List.modifyHead_id _).symm
  | cons c before ih =>
    rw [List.mem_cons, not_or] at hbefore
    obtain ⟨hc, hbefore⟩ := hbefore
    rw [List.cons_append, List.splitOn_cons_eq_if_modifyHead, if_neg (by simpa using Ne.symm hc),
      ih hbefore, List.modifyHead_modifyHead]
    rfl

/-- What stands behind a text goes to its last piece. -/
theorem splitOn_append_right (hafter : sep ∉ after) :
    List.Forall₂ (fun piece padded => padded = piece ∨ padded = piece ++ after)
      (s.splitOn sep) ((s ++ after).splitOn sep) := by
  induction s with
  | nil =>
    rw [List.nil_append, List.splitOn_eq_singleton hafter]
    exact .cons (.inr rfl) .nil
  | cons c s ih =>
    rw [List.cons_append, List.splitOn_cons_eq_if_modifyHead, List.splitOn_cons_eq_if_modifyHead]
    split
    · exact .cons (.inl rfl) ih
    · generalize s.splitOn sep = pieces at ih
      generalize (s ++ after).splitOn sep = padded at ih
      cases ih with
      | nil => exact .nil
      | cons hpiece hpieces =>
        refine .cons ?_ hpieces
        obtain rfl | rfl := hpiece
        · exact .inl rfl
        · exact .inr rfl

theorem map_trim_splitOn_append (hsep : isBlank sep = false) (hbefore : IsBlank before)
    (hafter : IsBlank after) :
    ((before ++ s ++ after).splitOn sep).map trim = (s.splitOn sep).map trim := by
  have hfront : ((before ++ s).splitOn sep).map trim = (s.splitOn sep).map trim := by
    rw [splitOn_append_left (hbefore.sep_not_mem hsep)]
    cases s.splitOn sep with
    | nil => rfl
    | cons piece pieces =>
      rw [List.modifyHead_cons, List.map_cons, List.map_cons, trim_append_left hbefore]
  have hback := splitOn_append_right (s := before ++ s) (hafter.sep_not_mem hsep)
  rw [← hfront]
  symm
  rw [← List.forall₂_eq_eq_eq, List.forall₂_map_left_iff, List.forall₂_map_right_iff]
  refine hback.imp fun piece padded hpadded => ?_
  obtain rfl | rfl := hpadded
  · rfl
  · exact (trim_append_right hafter).symm

end Pieces

end CellularRegistration.Text
