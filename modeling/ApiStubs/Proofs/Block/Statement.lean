import ApiStubs.Block
import ApiStubs.Proofs.Entry.Reading
import ApiStubs.Proofs.Escape.Comment

/-!
The statement of an entry as fixed texts with pasted ones between them: the name of the entry, the
names of its parameters and its type.
-/

namespace ApiStubs

open Text Escape

-- The statement of an entry with the parameters that its block shows.
def Entry.shownStatement (settings : Settings) (entry : Entry) : String :=
  entry.statement settings (entry.shownParameters settings)

variable {P : String → Prop} {s t j : String} {settings : Settings} {entry : Entry}

-- A fixed text on one line, which meets no other text in a comment marker.
def Fixed (j : String) : Prop :=
  Joint j ∧ '\n' ∉ j.toList

instance : DecidablePred Fixed :=
  fun _ => inferInstanceAs (Decidable (_ ∧ _))

theorem fixed_of_reserved {name : String} {word : ReservedWord}
    (h : ReservedWord.ofName? name = some word) : Fixed name := by
  unfold ReservedWord.ofName? at h
  split_ifs at h with hf ht hl hs
  all_goals subst name; decide

-- What a text made of fixed and pasted texts has exactly if all the pasted ones have it.
structure Pastable (P : String → Prop) : Prop where
  fixed {j : String} (hj : Fixed j) : P j
  paste {s j t : String} (hj : Fixed j) : P (s ++ j ++ t) ↔ P s ∧ P t

namespace Pastable

theorem empty (hP : Pastable P) : P "" := by
  have hj : Fixed ";" := by decide
  have h : P ("" ++ ";" ++ "") := by simpa using hP.fixed hj
  exact (hP.paste hj).mp h |>.left

theorem fixed_append (hP : Pastable P) (hj : Fixed j) : P (j ++ t) ↔ P t := by
  simpa [hP.empty] using hP.paste (s := "") (t := t) hj

theorem append_fixed (hP : Pastable P) (hj : Fixed j) : P (s ++ j) ↔ P s := by
  simpa [hP.empty] using hP.paste (s := s) (t := "") hj

theorem intercalate (hP : Pastable P) (hj : Fixed j) {texts : List String} :
    P (j.intercalate texts) ↔ ∀ s ∈ texts, P s := by
  induction texts
  case nil => simpa using hP.empty
  case cons s rest hi =>
    cases rest
    case nil         => simp
    case cons t rest =>
      rw [String.intercalate_cons_cons, hP.paste hj, hi, List.forall_mem_cons (l := t :: rest)]

-- Looking a text up changes nothing if the table holds nothing else than fixed texts.
theorem findD (hP : Pastable P) {table : Table} (ht : ∀ e ∈ table, Fixed e.1 ∧ Fixed e.2) :
    P (table.findD s) ↔ P s := by
  induction table
  case nil            => rfl
  case cons e rest hi =>
    have ⟨hk, hv⟩ := ht e List.mem_cons_self
    by_cases hs : e.1 = s
    case pos =>
      have he : Table.findD (e :: rest) s = e.2 := by simp [Table.findD, Table.find?, hs]
      rw [he, ← hs]
      exact iff_of_true (hP.fixed hv) (hP.fixed hk)
    case neg =>
      have he : Table.findD (e :: rest) s = Table.findD rest s := by
        simp [Table.findD, Table.find?, hs]
      rw [he, hi fun e' hm => ht e' (List.mem_cons_of_mem _ hm)]

theorem placeholder (hP : Pastable P) {kind : EntryKind} {type : String} :
    P (Placeholder.ofType kind type).text ↔ P type := by
  unfold Placeholder.ofType
  split_ifs with hs hn hu
  case pos =>
    have h₁ : Fixed "\"\"" := by decide
    have h₂ : Fixed "String" := by decide
    exact iff_of_true (hP.fixed h₁) (hs ▸ hP.fixed h₂)
  case pos =>
    have h₁ : Fixed "0" := by decide
    have h₂ : Fixed "Number" := by decide
    exact iff_of_true (hP.fixed h₁) (hn ▸ hP.fixed h₂)
  case pos =>
    have h₁ : Fixed "\x7b\x7d" := by decide
    have h₂ : Fixed "undefined" := by decide
    have ht : P type := by
      obtain rfl | rfl := hu
      · exact hP.empty
      · exact hP.fixed h₂
    cases kind
    case method   => exact iff_of_true hP.empty ht
    case property => exact iff_of_true (hP.fixed h₁) ht
  case neg =>
    have h₁ : Fixed "new " := by decide
    have h₂ : Fixed "()" := by decide
    rw [Placeholder.text, hP.append_fixed h₂, hP.fixed_append h₁]

theorem body (hP : Pastable P) {value : Placeholder} :
    P (if value = .nothing then "\x7b\x7d" else "\x7b return " ++ value.text ++ "; \x7d") ↔
      P value.text := by
  split
  case isTrue h =>
    have he : Fixed "\x7b\x7d" := by decide
    exact iff_of_true (hP.fixed he) (h ▸ hP.empty)
  case isFalse =>
    have hr : Fixed "\x7b return " := by decide
    have he : Fixed "; \x7d" := by decide
    rw [hP.append_fixed he, hP.fixed_append hr]

-- A statement has the property if all the texts that are pasted into it have it.
theorem statement (hP : Pastable P) {parameters : List Parameter} :
    P (entry.statement settings parameters) ↔
      P (Target.ofName settings entry.name).text ∧
        (entry.kind = .method → ∀ p ∈ parameters, P p.name) ∧
        P (TypeList.read settings entry.returns).primary := by
  have hs : Fixed ";" := by decide
  have hv : P (entry.placeholder settings).text ↔
      P (TypeList.read settings entry.returns).primary := hP.placeholder
  cases hk : entry.kind <;> simp only [Entry.statement, hk, hP.append_fixed hs]
  case property =>
    have he : Fixed " = " := by decide
    simp [hP.paste he, hv]
  case method =>
    have hf : Fixed " = function(" := by decide
    have hc : Fixed ", " := by decide
    have hp : Fixed ") " := by decide
    rw [hP.paste hp, hP.paste hf, hP.intercalate hc, hP.body, hv, and_assoc, List.forall_mem_map]
    simp

-- Cutting a name at its dot and putting the parts together again changes nothing either.
theorem target (hP : Pastable P) (ho : ∀ e ∈ settings.owners, Fixed e.1 ∧ Fixed e.2)
    {name : String} : P (Target.ofName settings name).text ↔ P name := by
  have hd : Fixed "." := by decide
  rw [Target.ofName]
  split
  case h_1 owner member hc =>
    have hn : name = String.ofList owner ++ "." ++ String.ofList member := by
      simp [← String.toList_inj, (Text.cutChars?_eq_some hc).left]
    rw [Target.text, hP.paste hd, hP.findD ho, hn, hP.paste hd]
  case h_2 =>
    have hj : Fixed (defaultOwner ++ ".") := by decide
    rw [Target.text, hP.fixed_append hj]

theorem identifier (hP : Pastable P) {name : String} :
    P (ParameterName.classify name).identifier ↔ P name := by
  unfold ParameterName.classify
  split_ifs with hq
  case pos =>
    have h₁ : Fixed "jq" := by decide
    have h₂ : Fixed "jQuery object" := by decide
    exact iff_of_true (hP.fixed h₁) (hq ▸ hP.fixed h₂)
  case neg =>
    split
    case h_1 word hw =>
      have hi : Fixed word.identifier := by cases word <;> decide
      exact iff_of_true (hP.fixed hi) (hP.fixed (fixed_of_reserved hw))
    case h_2 =>
      split
      case h_1 rest hn =>
        have h₁ : Fixed "neg_" := by decide
        have h₂ : Fixed "-" := by decide
        have hd : name = "-" ++ String.ofList rest := by simp [← String.toList_inj, hn]
        rw [ParameterName.identifier, hP.fixed_append h₁, hd, hP.fixed_append h₂]
      case h_2 => rfl

theorem primary (hP : Pastable P) (ht : ∀ e ∈ settings.types, Fixed e.1 ∧ Fixed e.2)
    {types : String} :
    P (TypeList.read settings types).primary ↔ P ((TypeList.parts types).headD "") := by
  rw [TypeList.primary, TypeList.read]
  cases TypeList.parts types
  case nil            => rfl
  case cons type rest => exact hP.findD ht

-- With tables of fixed texts only the texts of the entry itself matter.
theorem shownStatement (hP : Pastable P) (ho : ∀ e ∈ settings.owners, Fixed e.1 ∧ Fixed e.2)
    (ht : ∀ e ∈ settings.types, Fixed e.1 ∧ Fixed e.2) :
    P (entry.shownStatement settings) ↔
      P entry.name ∧
        (entry.kind = .method → ∀ raw ∈ entry.parameters, P (stripQualifiers raw.name)) ∧
        P ((TypeList.parts entry.returns).headD "") := by
  have hp : entry.kind = .method →
      ((∀ p ∈ entry.shownParameters settings, P p.name) ↔
        ∀ raw ∈ entry.parameters, P (stripQualifiers raw.name)) := by
    intro hk
    simp only [Entry.shownParameters, hk, List.forall_mem_map, Parameter.ofRaw, hP.identifier]
  rw [Entry.shownStatement, hP.statement, hP.target ho, hP.primary ht, forall_congr' hp]

end Pastable

theorem pastable_newline_not_mem : Pastable fun s => '\n' ∉ s.toList where
  fixed hj := hj.right
  paste {s j t} hj := by simp [hj.right]

-- A text on one line that neither opens nor closes a comment.
structure IsCode (s : String) : Prop where
  oneLine : '\n' ∉ s.toList
  notOpening (i : Nat) : ¬OccursAt "/*".toList s.toList i
  notClosing (i : Nat) : ¬OccursAt "*/".toList s.toList i

theorem isCode_iff : IsCode s ↔ '\n' ∉ s.toList ∧ Unmarked s.toList where
  mp h  := ⟨h.oneLine, .of_not_occursAt h.notClosing, .of_not_occursAt h.notOpening⟩
  mpr h := ⟨h.left, fun _ => h.right.opening.not_occursAt, fun _ => h.right.closing.not_occursAt⟩

theorem Fixed.isCode (hj : Fixed j) : IsCode j :=
  isCode_iff.mpr ⟨hj.right, hj.left.unmarked⟩

theorem pastable_isCode : Pastable IsCode where
  fixed hj := hj.isCode
  paste {s j t} hj := by
    have hu : Unmarked (s ++ j ++ t).toList ↔ Unmarked s.toList ∧ Unmarked t.toList :=
      unmarked_append_joint_append hj.left
    have hn := pastable_newline_not_mem.paste (s := s) (t := t) hj
    rw [isCode_iff, isCode_iff, isCode_iff, hn, hu, and_and_and_comm]

namespace Entry

-- With the built-in tables a statement is code on one line exactly if the name of the entry, the
-- names of its parameters and its first type are. Nothing is escaped on the way.
theorem isCode_shownStatement (entry : Entry) :
    IsCode (entry.shownStatement {}) ↔
      IsCode entry.name ∧
        (entry.kind = .method → ∀ raw ∈ entry.parameters, IsCode (stripQualifiers raw.name)) ∧
        IsCode ((TypeList.parts entry.returns).headD "") := by
  have ho : ∀ e ∈ ({} : Settings).owners, Fixed e.1 ∧ Fixed e.2 := by decide
  have ht : ∀ e ∈ ({} : Settings).types, Fixed e.1 ∧ Fixed e.2 := by decide
  exact pastable_isCode.shownStatement ho ht

-- The name of a method may open a comment.
theorem not_isCode_opening : ∃ entry,
    ofElement (bareElement "method" "a/*b") = .ok entry ∧
      entry.shownStatement {} = "jQuery.prototype.a/*b = function() \x7b\x7d;" ∧
      ¬IsCode (entry.shownStatement {}) := by
  let entry : Entry := { name := "a/*b", kind := .method }
  have hs : entry.shownStatement {} = "jQuery.prototype.a/*b = function() \x7b\x7d;" := by
    decide +kernel
  refine ⟨entry, ofElement_bareElement rfl, hs, fun h => h.notOpening 18 ?_⟩
  rw [hs]
  decide

end Entry
end ApiStubs
