import ApiStubs.Parameter.Name
import ApiStubs.Proofs.Text.Blank

/-!
The qualifier behind a name. A name is cut where the longest qualifier that ends it begins, and that
is at the first `(` of those that only the last `)` closes.
-/

namespace ApiStubs

open Text

variable {s t u blanks gap outside inside : List Char}

-- A parenthesis pair without `)` inside it, with blanks around it.
inductive Qualifier : List Char → Prop
  | mk {gap inside tail : List Char} (hg : AllBlank gap) (hi : ')' ∉ inside) (ht : AllBlank tail) :
    Qualifier (gap ++ '(' :: inside ++ ')' :: tail)

theorem isQualifier_iff : isQualifier s ↔ Qualifier s := by
  constructor
  case mp =>
    intro h
    unfold isQualifier at h
    split at h
    case h_2 => cases h
    case h_1 rest hs =>
      split at h
      case h_2 => cases h
      case h_1 tail hr =>
        have hi : ')' ∉ rest.takeWhile (· ≠ ')') := fun hm => by
          simpa using List.mem_takeWhile_imp hm
        have he : s = s.takeWhile isBlank ++ '(' :: rest.takeWhile (· ≠ ')') ++ ')' :: tail := by
          rw [List.append_assoc, List.cons_append, ← hr, List.takeWhile_append_dropWhile, ← hs,
            List.takeWhile_append_dropWhile]
        rw [he]
        exact .mk (fun _ => List.mem_takeWhile_imp) hi (List.all_eq_true.mp h)
  case mpr =>
    rintro ⟨hg, hi, ht⟩
    rename_i gap inside tail
    have hs : (gap ++ '(' :: inside ++ ')' :: tail).dropWhile isBlank =
        '(' :: (inside ++ ')' :: tail) := by
      rw [List.append_assoc, List.dropWhile_append_of_pos hg]
      rfl
    have hr : (inside ++ ')' :: tail).dropWhile (· ≠ ')') = ')' :: tail := by
      rw [List.dropWhile_append_of_pos fun c hc => by simpa using ne_of_mem_of_not_mem hc hi]
      rfl
    simp only [isQualifier, hs, hr]
    exact List.all_eq_true.mpr ht

theorem Qualifier.append (hb : AllBlank blanks) (h : Qualifier s) : Qualifier (blanks ++ s) := by
  obtain ⟨hg, hi, ht⟩ := h
  rw [← List.append_assoc, ← List.append_assoc]
  exact .mk (hb.append hg) hi ht

theorem dropQualifier_eq_self (h : ∀ t, t <:+ s → ¬Qualifier t) : dropQualifier s = s := by
  induction s
  case nil         => rfl
  case cons c s hi =>
    have hc : ¬isQualifier (c :: s) := fun hq => h _ List.suffix_rfl (isQualifier_iff.mp hq)
    rw [dropQualifier, if_neg hc, hi fun t ht => h t (ht.trans (List.suffix_cons c s))]

-- The qualifier that is cut off begins where no longer one does.
theorem dropQualifier_append (ht : Qualifier t) (h : ∀ u, u ≠ [] → u <:+ s → ¬Qualifier (u ++ t)) :
    dropQualifier (s ++ t) = s := by
  induction s
  case nil =>
    have hq := isQualifier_iff.mpr ht
    cases t
    case nil      => rfl
    case cons c t => rw [List.nil_append, dropQualifier, if_pos hq]
  case cons c s hi =>
    have hc : ¬isQualifier (c :: (s ++ t)) := fun hq =>
      h (c :: s) (by simp) List.suffix_rfl (isQualifier_iff.mp hq)
    rw [List.cons_append, dropQualifier, if_neg hc]
    rw [hi fun u hu hs => h u hu (hs.trans (List.suffix_cons c s))]

theorem dropQualifier_cases (s : List Char) :
    dropQualifier s = s ∨ ∃ t, Qualifier t ∧ s = dropQualifier s ++ t := by
  induction s
  case nil         => exact .inl rfl
  case cons c s hi =>
    by_cases hq : isQualifier (c :: s)
    case pos => exact .inr ⟨c :: s, isQualifier_iff.mp hq, by rw [dropQualifier, if_pos hq]; rfl⟩
    case neg =>
      rw [dropQualifier, if_neg hq]
      obtain hs | ⟨t, ht, hs⟩ := hi
      · exact .inl (by rw [hs])
      · exact .inr ⟨t, ht, by rw [List.cons_append, ← hs]⟩

-- A text that ends in `)`: all up to the `)` before that one, and what stands between the two.
structure Closing (s outside inside : List Char) : Prop where
  eq : s = outside ++ inside ++ [')']
  outside : ∀ c ∈ outside.getLast?, c = ')'
  inside : ')' ∉ inside

theorem isSuffix_inside (ho : ∀ c ∈ outside.getLast?, c = ')') (h : s <:+ outside ++ inside)
    (hs : ')' ∉ s) : s <:+ inside := by
  obtain hi | ⟨z, rfl⟩ := List.suffix_or_suffix_of_suffix h (List.suffix_append outside inside)
  case inl => exact hi
  case inr =>
    obtain ⟨p, hp⟩ := h
    have hp : p ++ z = outside := List.append_cancel_right (by rw [← hp, List.append_assoc])
    obtain rfl | ⟨z, c, rfl⟩ := List.eq_nil_or_concat z
    case inl => exact List.suffix_rfl
    case inr =>
      obtain rfl : c = ')' := ho c (by simp [← hp])
      simp at hs

theorem exists_closing (s : List Char) : ∃ outside inside, Closing (s ++ [')']) outside inside := by
  refine ⟨s.rdropWhile (· ≠ ')'), s.rtakeWhile (· ≠ ')'), ?eq, fun c hc => ?outside,
    fun hm => ?inside⟩
  case eq => rw [List.rdropWhile_append_rtakeWhile]
  case outside =>
    obtain ⟨hn, rfl⟩ := List.mem_getLast?_eq_getLast hc
    simpa using List.rdropWhile_last_not _ _ hn
  case inside => simpa using List.mem_rtakeWhile_imp hm

theorem dropEndBlanks_closing (hb : AllBlank blanks) :
    dropEndBlanks (s ++ ')' :: blanks) = s ++ [')'] := by
  have hc : ∀ c ∈ (s ++ [')']).getLast?, ¬isBlank c := by
    simp [show isBlank ')' = false by decide]
  rw [List.append_cons, dropEndBlanks_append hb, dropEndBlanks_eq_self hc]

theorem append_closing_cancel {blanks' : List Char} (h : s ++ ')' :: blanks = t ++ ')' :: blanks')
    (hb : AllBlank blanks) (hb' : AllBlank blanks') : s = t := by
  have he : s ++ [')'] = t ++ [')'] := by
    rw [← dropEndBlanks_closing hb, h, dropEndBlanks_closing hb']
  exact List.append_cancel_right he

-- A longer qualifier would begin with another `(` of the pair or reach over the `)` before it.
theorem not_qualifier_append {before rest : List Char}
    (ho : ∀ c ∈ outside.getLast?, c = ')') (hb : '(' ∉ before) (ht : AllBlank blanks)
    (hg : outside ++ before = dropEndBlanks (outside ++ before) ++ gap)
    (hu : u <:+ dropEndBlanks (outside ++ before)) (hn : u ≠ []) :
    ¬Qualifier (u ++ (gap ++ '(' :: rest ++ ')' :: blanks)) := by
  intro hq
  obtain ⟨p, hp⟩ := hu
  have hl : ¬isBlank (u.getLast hn) := by
    apply not_isBlank_getLast?_dropEndBlanks (s := outside ++ before)
    simp [← hp, List.getLast?_append, List.getLast?_eq_some_getLast hn]
  generalize hs : u ++ (gap ++ '(' :: rest ++ ')' :: blanks) = s at hq
  obtain ⟨hg', hi', ht'⟩ := hq
  rename_i gap' inside' tail'
  have he : u ++ (gap ++ '(' :: rest) = gap' ++ '(' :: inside' := by
    refine append_closing_cancel ?_ ht ht'
    rw [← hs, List.append_assoc]
  -- The `(` of the longer qualifier stands behind `u` or inside it.
  obtain ⟨z, rfl, -⟩ | ⟨w, rfl, hw⟩ := List.append_eq_append_iff.mp he
  case inl => exact hl <| hg' _ (List.mem_append_left _ (List.getLast_mem hn))
  case inr =>
    cases w
    case nil => exact hl <| hg' _ (by simp)
    case cons c w =>
      obtain ⟨rfl, rfl⟩ := List.cons.inj hw
      have hc : ')' ∉ '(' :: (w ++ gap) := by
        refine List.not_mem_cons_of_ne_of_not_mem (by decide) fun hm => hi' ?_
        rw [List.append_eq, ← List.append_assoc]
        exact List.mem_append_left _ hm
      have hm : '(' :: (w ++ gap) <:+ outside ++ before := by
        rw [hg, ← hp]
        exact ⟨p ++ gap', by simp⟩
      exact hb <| (isSuffix_inside ho hm hc).subset List.mem_cons_self

theorem Closing.dropQualifier_eq (h : Closing s outside inside) (hi : '(' ∈ inside)
    (hb : AllBlank blanks) :
    dropQualifier (s ++ blanks) = dropEndBlanks (outside ++ inside.takeWhile (· ≠ '(')) := by
  obtain ⟨before, rest, rfl, hn⟩ := List.eq_append_cons_of_mem hi
  have hw : (before ++ '(' :: rest).takeWhile (· ≠ '(') = before := by
    rw [List.takeWhile_append_of_pos fun c hc => by simpa using ne_of_mem_of_not_mem hc hn]
    simp
  obtain ⟨gap, hg, he⟩ := exists_dropEndBlanks (outside ++ before)
  have hr : ')' ∉ rest := fun hm => h.inside (by simp [hm])
  have hs : s ++ blanks =
      dropEndBlanks (outside ++ before) ++ (gap ++ '(' :: rest ++ ')' :: blanks) := by
    calc s ++ blanks
      _ = outside ++ before ++ ('(' :: rest ++ ')' :: blanks) := by simp [h.eq]
      _ = dropEndBlanks (outside ++ before) ++ gap ++ ('(' :: rest ++ ')' :: blanks) := by rw [← he]
      _ = _ := by simp
  rw [hw, hs]
  refine dropQualifier_append (.mk hg hr hb) fun u hu hn' => ?_
  exact not_qualifier_append h.outside hn hb he hn' hu

theorem Qualifier.exists_closing_of_isSuffix (h : Qualifier t) (hs : t <:+ s) :
    ∃ outside inside, Closing (dropEndBlanks s) outside inside ∧ '(' ∈ inside := by
  obtain ⟨p, rfl⟩ := hs
  obtain ⟨hg, hi, ht⟩ := h
  rename_i gap inside' tail
  have he : dropEndBlanks (p ++ (gap ++ '(' :: inside' ++ ')' :: tail)) =
      p ++ (gap ++ '(' :: inside') ++ [')'] := by
    rw [← List.append_assoc, dropEndBlanks_closing ht]
  have ⟨outside, inside, hc⟩ := exists_closing (p ++ (gap ++ '(' :: inside'))
  refine ⟨outside, inside, he ▸ hc, ?_⟩
  have hm : '(' :: inside' <:+ outside ++ inside := by
    rw [← List.append_cancel_right hc.eq]
    exact ⟨p ++ gap, by simp⟩
  have hn : ')' ∉ '(' :: inside' := List.not_mem_cons_of_ne_of_not_mem (by decide) hi
  exact (isSuffix_inside hc.outside hm hn).subset List.mem_cons_self

-- Trimming and cutting off a qualifier leave one part of a name.
theorem exists_stripQualifiers (name : String) :
    ∃ before rest, name.toList = before ++ (stripQualifiers name).toList ++ rest ∧
      AllBlank before ∧ (AllBlank rest ∨ Qualifier rest) := by
  have ⟨before, after, hb, ha, ht⟩ := exists_trimChars (dropQualifier name.toList)
  rw [toList_stripQualifiers]
  obtain hd | ⟨t, hq, hd⟩ := dropQualifier_cases name.toList
  case inl =>
    refine ⟨before, after, ?_, hb, .inl ha⟩
    rw [← ht, hd]
  case inr =>
    refine ⟨before, after ++ t, ?_, hb, .inr (hq.append ha)⟩
    rw [← List.append_assoc, ← ht, ← hd]

-- A name ends in a qualifier if it ends in `)`, blanks aside, and has a `(` behind the `)` before
-- that. Then it is cut at the first such `(`, and otherwise it is only trimmed. So at most one
-- qualifier is cut off, and what is left is a trimmed part from the start of the name.
theorem stripQualifiers_at_first_opening (name : String) :
    (∀ outside inside, Closing (dropEndBlanks name.toList) outside inside → '(' ∈ inside →
      stripQualifiers name = trim (String.ofList (outside ++ inside.takeWhile (· ≠ '(')))) ∧
    ((¬∃ outside inside, Closing (dropEndBlanks name.toList) outside inside ∧ '(' ∈ inside) →
      stripQualifiers name = trim name) ∧
    (∃ before rest, name.toList = before ++ (stripQualifiers name).toList ++ rest ∧
      AllBlank before ∧ (AllBlank rest ∨ Qualifier rest)) ∧
    (stripQualifiers name).toList <+: name.toList.dropWhile isBlank ∧
    Trimmed (stripQualifiers name).toList := by
  have ht : Trimmed (stripQualifiers name).toList := by
    rw [toList_stripQualifiers]
    exact trimmed_trimChars _
  have ⟨before, rest, hn, hb, hr⟩ := exists_stripQualifiers name
  refine ⟨fun outside inside hc hi => ?pair, fun h => ?plain, ⟨before, rest, hn, hb, hr⟩, ?part, ht⟩
  case pair =>
    obtain ⟨blanks, hb, hs⟩ := exists_dropEndBlanks name.toList
    have hd : dropQualifier name.toList =
        dropEndBlanks (outside ++ inside.takeWhile (· ≠ '(')) := by
      rw [hs, hc.dropQualifier_eq hi hb]
    rw [stripQualifiers, hd, trimChars_dropEndBlanks, trim, String.toList_ofList]
  case plain =>
    have hd : dropQualifier name.toList = name.toList :=
      dropQualifier_eq_self fun t ht hq => h (hq.exists_closing_of_isSuffix ht)
    rw [stripQualifiers, hd, trim]
  case part =>
    rw [hn]
    exact ht.isPrefix_dropWhile hb

-- The last `)` closes both `(` behind the `)` before it.
example : stripQualifiers " each(index) (item (all) " = "each(index)" := by decide +kernel

end ApiStubs
