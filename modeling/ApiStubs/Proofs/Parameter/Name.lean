import ApiStubs.Proofs.Entry.Acceptance
import ApiStubs.Proofs.Table

/-!
What parameters are called in stubs. Some names are renamed, and none is renamed to a name that
would be renamed in turn. Two names come out as one only if one of them is renamed to the other.
-/

namespace ApiStubs

open ParameterName (classify)

variable {name new a b : String}

-- The words that are renamed, with their new names.
def renamedWords : Table :=
  [("function", "fn"), ("true", "_true"), ("false", "_false"), ("switch", "_switch"),
    ("jQuery object", "jq")]

def Renamed (name new : String) : Prop :=
  (name, new) ∈ renamedWords ∨ ∃ rest, name = "-" ++ rest ∧ new = "neg_" ++ rest

theorem classify_negated (rest : String) : classify ("-" ++ rest) = .negated rest := by
  have hl : ("-" ++ rest).toList = '-' :: rest.toList := by simp
  have hw : ∀ e ∈ renamedWords, "-" ++ rest ≠ e.1 := by
    have hh : ∀ e ∈ renamedWords, e.1.toList.head? ≠ some '-' := by decide
    intro e he hr
    exact hh e he (by rw [← hr, hl]; rfl)
  simp only [renamedWords, List.forall_mem_cons] at hw
  simp [classify, ReservedWord.ofName?, hw]

namespace Renamed

theorem identifier_classify (h : Renamed name new) : (classify name).identifier = new := by
  obtain h | ⟨rest, rfl, rfl⟩ := h
  case inl =>
    have hw : ∀ e ∈ renamedWords, (classify e.1).identifier = e.2 := by decide
    exact hw _ h
  case inr => rw [classify_negated, ParameterName.identifier]

theorem ne_empty (h : Renamed name new) : new ≠ "" := by
  obtain h | ⟨rest, rfl, rfl⟩ := h
  case inl =>
    have hw : ∀ e ∈ renamedWords, e.2 ≠ "" := by decide
    exact hw _ h
  case inr => simp

-- No word is renamed to a name with an `n` at its start.
theorem injective (ha : Renamed a new) (hb : Renamed b new) : a = b := by
  have hn : ∀ e ∈ renamedWords, e.2.toList.head? ≠ some 'n' := by decide
  obtain ha | ⟨rest, rfl, hs⟩ := ha <;> obtain hb | ⟨rest', rfl, hs'⟩ := hb
  case inl.inl =>
    have hw : ∀ e ∈ renamedWords, ∀ e' ∈ renamedWords, e.2 = e'.2 → e.1 = e'.1 := by decide
    exact hw _ ha _ hb rfl
  case inl.inr => exact absurd (by simp [hs']) (hn _ ha)
  case inr.inl => exact absurd (by simp [hs]) (hn _ hb)
  case inr.inr =>
    have hr : "neg_" ++ rest = "neg_" ++ rest' := hs.symm.trans hs'
    simpa using hr

theorem not_renamed (h : Renamed name new) : ¬Renamed new b := by
  have hn : ∀ e ∈ renamedWords, e.1.toList.head? ≠ some 'n' ∧ e.2.toList.head? ≠ some '-' := by
    decide
  rintro (hb | ⟨rest', hs', rfl⟩) <;> obtain h | ⟨rest, rfl, hs⟩ := h
  case inl.inl =>
    have hw : ∀ e ∈ renamedWords, ∀ e' ∈ renamedWords, e.2 ≠ e'.1 := by decide
    exact hw _ h _ hb rfl
  case inl.inr => exact (hn _ hb).left (by simp [hs])
  case inr.inl => exact (hn _ h).right (by simp [hs'])
  case inr.inr =>
    rw [hs, ← String.toList_inj] at hs'
    simp at hs'

end Renamed

theorem not_renamed_iff :
    (∀ new, ¬Renamed name new) ↔ name ∉ renamedWords.keys ∧ name.toList.head? ≠ some '-' := by
  constructor
  case mp =>
    refine fun h => ⟨fun hk => ?_, fun hd => ?_⟩
    · obtain ⟨e, he, rfl⟩ := List.mem_map.mp hk
      exact h e.2 (.inl he)
    · obtain ⟨rest, hr⟩ := List.head?_eq_some_iff.mp hd
      refine h ("neg_" ++ String.ofList rest) (.inr ⟨String.ofList rest, ?_, rfl⟩)
      simp [← String.toList_inj, hr]
  case mpr =>
    rintro ⟨hk, hd⟩ new (h | ⟨rest, rfl, -⟩)
    · exact hk (List.mem_map.mpr ⟨_, h, rfl⟩)
    · simp at hd

theorem identifier_classify_of_not_renamed (h : ∀ new, ¬Renamed name new) :
    (classify name).identifier = name := by
  obtain ⟨hk, hd⟩ := not_renamed_iff.mp h
  have hm : ∀ rest, name.toList ≠ '-' :: rest := by
    intro rest hr
    simp [hr] at hd
  simp only [renamedWords, Table.keys, List.map_cons, List.mem_cons, not_or] at hk
  simp only [classify, ReservedWord.ofName?, hk, if_false]
  rfl

-- A name is shown as its new name or as itself.
theorem identifier_classify_cases (name : String) :
    Renamed name (classify name).identifier ∨
      (∀ new, ¬Renamed name new) ∧ (classify name).identifier = name := by
  by_cases h : ∃ new, Renamed name new
  case pos =>
    obtain ⟨new, hn⟩ := h
    rw [hn.identifier_classify]
    exact .inl hn
  case neg =>
    have hn := not_exists.mp h
    exact .inr ⟨hn, identifier_classify_of_not_renamed hn⟩

theorem identifier_classify_eq_iff (h : a ≠ b) :
    (classify a).identifier = (classify b).identifier ↔ Renamed a b ∨ Renamed b a := by
  constructor
  case mp =>
    intro he
    obtain ha | ⟨-, ha⟩ := identifier_classify_cases a <;>
      obtain hb | ⟨-, hb⟩ := identifier_classify_cases b
    case inl.inl => exact absurd (ha.injective (he ▸ hb)) h
    case inl.inr => exact .inl (by rwa [he, hb] at ha)
    case inr.inl => exact .inr (by rwa [← he, ha] at hb)
    case inr.inr => exact absurd (by rw [← ha, he, hb]) h
  case mpr =>
    rintro (hr | hr)
    · rw [hr.identifier_classify, identifier_classify_of_not_renamed fun _ => hr.not_renamed]
    · rw [hr.identifier_classify, identifier_classify_of_not_renamed fun _ => hr.not_renamed]

theorem ne_empty_identifier_classify (h : name ≠ "") : (classify name).identifier ≠ "" := by
  obtain hr | ⟨-, hn⟩ := identifier_classify_cases name
  case inl => exact hr.ne_empty
  case inr => rwa [hn]

theorem not_renamed_identifier_classify (name : String) :
    ∀ new, ¬Renamed (classify name).identifier new := by
  obtain hr | ⟨hn, he⟩ := identifier_classify_cases name
  case inl => exact fun _ => hr.not_renamed
  case inr => rwa [he]

theorem Parameter.name_ofRaw (settings : Settings) (raw : RawParameter) :
    (ofRaw settings raw).name = (classify (stripQualifiers raw.name)).identifier := by
  simp only [ofRaw]

-- The name of a parameter is shown as a text that is not empty and is no name that is renamed. A
-- jQuery object has a type of its own. Of two different names that are shown alike one is renamed
-- to the other.
theorem Parameter.ofRaw_renames (settings : Settings) :
    (∀ entry e raw, RawParameter.ofElement entry e = .ok raw →
      (ofRaw settings raw).name ≠ "" ∧
      (ofRaw settings raw).name ∉ ["function", "true", "false", "switch", "jQuery object"] ∧
      (ofRaw settings raw).name.toList.head? ≠ some '-') ∧
    (∀ raw, stripQualifiers raw.name = "jQuery object" → (ofRaw settings raw).type = "jQuery") ∧
    (∀ raw, (ofRaw settings raw).name = (classify (stripQualifiers raw.name)).identifier) ∧
    ∀ a b, a ≠ b →
      ((classify a).identifier = (classify b).identifier ↔ Renamed a b ∨ Renamed b a) := by
  refine ⟨?name, ?type, name_ofRaw settings, ?shown⟩
  case name =>
    intro entry e raw h
    obtain ⟨name, types, -, hs, -, rfl⟩ := RawParameter.ofElement_eq_ok.mp h
    have hr := not_renamed_identifier_classify (stripQualifiers name)
    rw [name_ofRaw]
    exact ⟨ne_empty_identifier_classify hs, not_renamed_iff.mp hr⟩
  case type =>
    intro raw h
    rw [ofRaw, h]
    rfl
  case shown => exact fun a b => identifier_classify_eq_iff

end ApiStubs
