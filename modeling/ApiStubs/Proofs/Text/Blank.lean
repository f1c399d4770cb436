import ApiStubs.Text.Blank
import Mathlib.Data.List.DropRight

/-!
Texts without blanks at their ends. Trimming finds a part of a text that has none there and nothing
but blanks around it.
-/

namespace ApiStubs.Text

variable {a b s t : List Char}

def AllBlank (s : List Char) : Prop :=
  ∀ c ∈ s, isBlank c

theorem AllBlank.nil : AllBlank [] :=
  List.forall_mem_nil _

theorem AllBlank.append (ha : AllBlank a) (hb : AllBlank b) : AllBlank (a ++ b) :=
  List.forall_mem_append.mpr ⟨ha, hb⟩

theorem dropWhile_isBlank (h : AllBlank b) : b.dropWhile isBlank = [] :=
  List.dropWhile_eq_nil_iff.mpr h

theorem dropWhile_isBlank_eq_self (h : ∀ c ∈ s.head?, ¬isBlank c) : s.dropWhile isBlank = s := by
  cases s
  case nil      => rfl
  case cons c s => exact List.dropWhile_cons_of_neg (h c rfl)

theorem not_isBlank_head?_dropWhile : ∀ c ∈ (s.dropWhile isBlank).head?, ¬isBlank c := by
  intro c hc
  have hh := List.head?_dropWhile_not isBlank s
  simp_all

theorem exists_dropEndBlanks (s : List Char) : ∃ b, AllBlank b ∧ s = dropEndBlanks s ++ b :=
  ⟨s.rtakeWhile isBlank, fun _ => List.mem_rtakeWhile_imp, List.rdropWhile_append_rtakeWhile.symm⟩

theorem dropEndBlanks_append (h : AllBlank b) : dropEndBlanks (s ++ b) = dropEndBlanks s := by
  have hr : ∀ c ∈ b.reverse, isBlank c := fun c hc => h c (List.mem_reverse.mp hc)
  rw [dropEndBlanks, List.reverse_append, List.dropWhile_append_of_pos hr, dropEndBlanks]

theorem dropEndBlanks_eq_self (h : ∀ c ∈ s.getLast?, ¬isBlank c) : dropEndBlanks s = s := by
  rw [dropEndBlanks, dropWhile_isBlank_eq_self, List.reverse_reverse]
  rwa [List.head?_reverse]

theorem not_isBlank_getLast?_dropEndBlanks :
    ∀ c ∈ (dropEndBlanks s).getLast?, ¬isBlank c := by
  rw [dropEndBlanks, List.getLast?_reverse]
  exact not_isBlank_head?_dropWhile

-- Neither end of the text is a blank.
structure Trimmed (s : List Char) : Prop where
  head : ∀ c ∈ s.head?, ¬isBlank c
  last : ∀ c ∈ s.getLast?, ¬isBlank c

theorem trimmed_trimChars (s : List Char) : Trimmed (trimChars s) where
  head := by
    have ⟨b, _, hb⟩ := exists_dropEndBlanks (s.dropWhile isBlank)
    intro c hc
    refine not_isBlank_head?_dropWhile (s := s) c ?_
    rw [hb, List.head?_append]
    simp [show (dropEndBlanks (s.dropWhile isBlank)).head? = some c from hc]
  last := not_isBlank_getLast?_dropEndBlanks

theorem exists_trimChars (s : List Char) :
    ∃ a b, AllBlank a ∧ AllBlank b ∧ s = a ++ trimChars s ++ b := by
  have ⟨b, hb, hs⟩ := exists_dropEndBlanks (s.dropWhile isBlank)
  refine ⟨s.takeWhile isBlank, b, fun c => List.mem_takeWhile_imp, hb, ?_⟩
  rw [List.append_assoc, trimChars, ← hs, List.takeWhile_append_dropWhile]

-- Blanks around a text do not change what is left of it.
theorem trimChars_append (ha : AllBlank a) (hb : AllBlank b) :
    trimChars (a ++ s ++ b) = trimChars s := by
  rw [List.append_assoc, trimChars, List.dropWhile_append_of_pos ha, List.dropWhile_append,
    trimChars]
  split
  case isTrue h  => rw [dropWhile_isBlank hb, List.isEmpty_iff.mp h]
  case isFalse h => exact dropEndBlanks_append hb

theorem trimChars_dropEndBlanks : trimChars (dropEndBlanks s) = trimChars s := by
  obtain ⟨b, hb, hs⟩ := exists_dropEndBlanks s
  have ht := trimChars_append (s := dropEndBlanks s) .nil hb
  rw [← ht, List.nil_append, ← hs]

-- A trimmed part behind blanks is where a text begins once they are dropped.
theorem Trimmed.isPrefix_dropWhile (h : Trimmed t) (ha : AllBlank a) :
    t <+: (a ++ t ++ b).dropWhile isBlank := by
  cases t
  case nil => exact List.nil_prefix
  case cons c t =>
    have hc : ¬isBlank c := h.head c rfl
    rw [List.append_assoc, List.dropWhile_append_of_pos ha, List.cons_append,
      List.dropWhile_cons_of_neg hc]
    exact List.prefix_append (c :: t) b

end ApiStubs.Text
