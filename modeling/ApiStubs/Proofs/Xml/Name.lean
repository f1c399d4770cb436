import Mathlib.Data.List.TakeWhile
import ApiStubs.Xml.Tree

/-!
Names as XML has them, and elements in which every name is one.
-/

namespace ApiStubs.Xml

-- A name as XML has it, colons included.
def IsName (s : List Char) : Prop :=
  takeColonName s = some (s, [])

instance : DecidablePred IsName :=
  fun s => inferInstanceAs (Decidable (takeColonName s = some (s, [])))

namespace IsName

variable {s : List Char}

theorem ne_nil (h : IsName s) : s ≠ [] := by
  rintro rfl
  cases h

theorem part (h : IsName s) : ∀ c ∈ s, isNameChar c ∨ c = ':' := by
  cases s
  case nil => exact nofun
  case cons first s =>
    simp only [IsName, takeColonName, Option.ite_none_right_eq_some, Option.some.injEq,
      Prod.mk.injEq, List.cons.injEq, true_and] at h
    obtain ⟨hf, hs, -⟩ := h
    intro c hc
    cases hc
    case head =>
      simp only [Bool.or_eq_true, beq_iff_eq] at hf
      exact hf.imp_left fun hf => by simp [isNameChar, hf]
    case tail hc =>
      have ha := List.all_takeWhile (p := fun c => isNameChar c || c == ':') (l := s)
      rw [hs, List.all_eq_true] at ha
      simpa using ha c hc

-- No character that sets off a name from what follows is part of it.
theorem ne_of_mem {c d : Char} (h : IsName s) (hc : c ∈ s) (hd : ¬(isNameChar d ∨ d = ':')) :
    c ≠ d := by
  rintro rfl
  exact hd <| h.part c hc

end IsName

-- A name that is written without a label, so without a colon.
def IsPlainName (s : List Char) : Prop :=
  takeName s = some (s, [])

instance : DecidablePred IsPlainName :=
  fun s => inferInstanceAs (Decidable (takeName s = some (s, [])))

namespace IsPlainName

variable {s a rest : List Char} {c : Char} {name : WrittenName}

theorem exists_cons (h : IsPlainName s) :
    ∃ first part, s = first :: part ∧ isNameStart first ∧ ∀ c ∈ part, isNameChar c := by
  cases s
  case nil => cases h
  case cons first part =>
    simp only [IsPlainName, takeName, Option.ite_none_right_eq_some, Option.some.injEq,
      Prod.mk.injEq, List.cons.injEq, true_and] at h
    exact ⟨first, part, rfl, h.left, List.takeWhile_eq_self_iff.mp h.right.left⟩

-- What is taken as a name is one.
theorem of_takeName (h : takeName s = some (a, rest)) : IsPlainName a := by
  cases s
  case nil => cases h
  case cons first part =>
    simp only [takeName, Option.ite_none_right_eq_some, Option.some.injEq, Prod.mk.injEq] at h
    obtain ⟨hf, rfl, _⟩ := h
    have hp : ∀ c ∈ part.takeWhile isNameChar, isNameChar c := fun _ => List.mem_takeWhile_imp
    simp only [IsPlainName, takeName, hf, if_true, List.takeWhile_eq_self_iff.mpr hp,
      List.dropWhile_eq_nil_iff.mpr hp]

theorem of_takeWrittenName (h : takeWrittenName s = some (name, rest)) :
    IsPlainName name.localName.toList := by
  unfold takeWrittenName at h
  cases hs : takeName s <;> rw [hs] at h
  case none => cases h
  case some r =>
    have hf := of_takeName hs
    dsimp only at h
    split at h
    case h_1 =>
      split at h <;> cases h
      case h_1 hr => simpa using of_takeName hr
      case h_2 => simpa using hf
    case h_2 =>
      cases h
      simpa using hf

-- A name ends in front of a character that is not part of names.
theorem takeName_append (h : IsPlainName s) (hc : ¬isNameChar c) (rest : List Char) :
    takeName (s ++ c :: rest) = some (s, c :: rest) := by
  obtain ⟨first, part, rfl, hf, hp⟩ := h.exists_cons
  simp [takeName, hf, List.takeWhile_append_of_pos hp, List.dropWhile_append_of_pos hp, hc]

theorem takeWrittenName_append (h : IsPlainName s) (hc : ¬(isNameChar c ∨ c = ':'))
    (rest : List Char) :
    takeWrittenName (s ++ c :: rest) = some (⟨none, String.ofList s⟩, c :: rest) := by
  have ⟨hn, hl⟩ := not_or.mp hc
  unfold takeWrittenName
  rw [h.takeName_append hn]
  dsimp only
  split
  case h_1 he => exact absurd (List.cons.inj he).left hl
  case h_2    => rfl

end IsPlainName

structure Tag.Named (tag : Tag) : Prop where
  name : IsName tag.name.localName.toList
  attributes : ∀ a ∈ tag.attributes, IsName a.name.localName.toList

instance (tag : Tag) : Decidable tag.Named :=
  decidable_of_iff
    (IsName tag.name.localName.toList ∧ ∀ a ∈ tag.attributes, IsName a.name.localName.toList)
    ⟨fun ⟨name, attributes⟩ => ⟨name, attributes⟩, fun ⟨name, attributes⟩ => ⟨name, attributes⟩⟩

mutual

-- The tags of a node and of all below it.
def Node.tags : Node → List Tag
  | .element tag children => tag :: Node.tagsOfList children
  | .text _ | .comment _ | .instruction .. => []

def Node.tagsOfList : List Node → List Tag
  | [] => []
  | n :: ns => n.tags ++ Node.tagsOfList ns

end

-- All below an element has names as XML has them.
def Element.Named (e : Element) : Prop :=
  ∀ tag ∈ Node.tagsOfList e.children, tag.Named

instance (e : Element) : Decidable e.Named :=
  inferInstanceAs (Decidable (∀ tag ∈ Node.tagsOfList e.children, tag.Named))

end ApiStubs.Xml
