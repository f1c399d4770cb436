import ApiStubs.Block
import ApiStubs.Proofs.Parameter.Name

/-!
Which parameters have an identifier for a name. Renaming makes identifiers of five words and of what
follows a hyphen if that is nothing but letters and digits. All other names are shown as they are,
also those that the language reserves and those with blanks or parentheses in them.
-/

namespace ApiStubs

open ParameterName (classify)

-- What counts as a letter or a digit. The letters of ASCII are letters.
structure Alphabet where
  isLetter : Char → Bool
  isDigit : Char → Bool
  isLetter_of_isAlpha : ∀ c : Char, c.isAlpha → isLetter c

-- The words that a program may not use as names.
def reservedWords : List String :=
  ["await", "break", "case", "catch", "class", "const", "continue", "debugger", "default", "delete",
    "do", "else", "enum", "export", "extends", "false", "finally", "for", "function", "if",
    "import", "in", "instanceof", "new", "null", "return", "super", "switch", "this", "throw",
    "true", "try", "typeof", "var", "void", "while", "with", "yield"]

namespace Alphabet

variable {alphabet : Alphabet} {name new rest : String}

def ascii : Alphabet where
  isLetter := Char.isAlpha
  isDigit := Char.isDigit
  isLetter_of_isAlpha _ h := h

def isStart (alphabet : Alphabet) (c : Char) : Bool :=
  alphabet.isLetter c || c = '$' || c = '_'

def isPart (alphabet : Alphabet) (c : Char) : Bool :=
  alphabet.isStart c || alphabet.isDigit c

structure IsIdentifier (alphabet : Alphabet) (name : String) : Prop where
  start : name.toList.head?.any alphabet.isStart
  parts : name.toList.all alphabet.isPart
  notReserved : name ∉ reservedWords

instance (alphabet : Alphabet) (name : String) : Decidable (alphabet.IsIdentifier name) :=
  decidable_of_iff
    (name.toList.head?.any alphabet.isStart ∧ name.toList.all alphabet.isPart ∧
      name ∉ reservedWords)
    ⟨fun ⟨start, parts, notReserved⟩ => ⟨start, parts, notReserved⟩,
      fun h => ⟨h.start, h.parts, h.notReserved⟩⟩

-- The names of which renaming makes identifiers.
inductive Nameable (alphabet : Alphabet) : String → Prop
  | word {name : String} (h : name ∈ renamedWords.keys) : Nameable alphabet name
  | negated {rest : String} (h : rest.toList.all alphabet.isPart) : Nameable alphabet ("-" ++ rest)
  | identifier {name : String} (h : alphabet.IsIdentifier name) : Nameable alphabet name

-- How a name may begin in every alphabet so that it is not reserved, whatever follows.
structure IsOpening (text : String) : Prop where
  ne_empty : text ≠ ""
  letters : ∀ c ∈ text.toList, c.isAlpha ∨ c = '_'
  notReserved : ∀ word ∈ reservedWords, ¬text.toList <+: word.toList

theorem isStart_of_isAlpha {c : Char} (h : c.isAlpha ∨ c = '_') : alphabet.isStart c := by
  obtain h | rfl := h
  · simp [isStart, alphabet.isLetter_of_isAlpha c h]
  · simp [isStart]

theorem isPart_of_isStart {c : Char} (h : alphabet.isStart c) : alphabet.isPart c := by
  simp [isPart, h]

theorem IsOpening.isIdentifier_append (h : IsOpening name) :
    alphabet.IsIdentifier (name ++ rest) ↔ rest.toList.all alphabet.isPart := by
  have hs : ∀ c ∈ name.toList, alphabet.isStart c := fun c hc => isStart_of_isAlpha (h.letters c hc)
  have hp : name.toList.all alphabet.isPart :=
    List.all_eq_true.mpr fun c hc => isPart_of_isStart (hs c hc)
  have ha : (name ++ rest).toList.all alphabet.isPart = rest.toList.all alphabet.isPart := by
    rw [String.toList_append, List.all_append, hp, Bool.true_and]
  refine ⟨fun hi => ha ▸ hi.parts, fun hr => ⟨?start, ha.trans hr, fun hm => ?notReserved⟩⟩
  case start =>
    have hn : name.toList ≠ [] := fun he => h.ne_empty (String.toList_inj.mp he)
    obtain ⟨c, text, hc⟩ := List.exists_cons_of_ne_nil hn
    simpa [hc] using hs c (by simp [hc])
  case notReserved =>
    apply h.notReserved _ hm
    rw [String.toList_append]
    exact List.prefix_append _ _

theorem IsOpening.isIdentifier (h : IsOpening name) : alphabet.IsIdentifier name := by
  have hi : alphabet.IsIdentifier (name ++ "") := h.isIdentifier_append.mpr rfl
  rwa [String.append_empty] at hi

theorem isOpening_of_mem_renamedWords (h : (name, new) ∈ renamedWords) : IsOpening new := by
  have hw : ∀ e ∈ renamedWords, e.2 ≠ "" ∧ (e.2.toList.all fun c => c.isAlpha ∨ c = '_') ∧
      ∀ word ∈ reservedWords, ¬e.2.toList <+: word.toList := by decide
  have ⟨hn, hl, hr⟩ := hw _ h
  exact ⟨hn, by simpa using hl, hr⟩

theorem isOpening_negated : IsOpening "neg_" where
  ne_empty := by decide
  letters := by simp
  notReserved := by decide

theorem nameable_negated : alphabet.Nameable ("-" ++ rest) ↔ rest.toList.all alphabet.isPart := by
  refine ⟨fun h => ?_, .negated⟩
  generalize hn : "-" ++ rest = name at h
  cases h
  case word hk =>
    have hw : ∀ word ∈ renamedWords.keys, word.toList.head? ≠ some '-' := by decide
    exact absurd (by simp [← hn]) (hw _ hk)
  case negated rest' hp =>
    obtain rfl : rest = rest' := by simpa using hn
    exact hp
  -- In an alphabet with hyphens.
  case identifier hi =>
    have hp := hi.parts
    rw [← hn, String.toList_append, List.all_append, Bool.and_eq_true] at hp
    exact hp.right

theorem nameable_of_not_renamed (h : ∀ new, ¬Renamed name new) :
    alphabet.Nameable name ↔ alphabet.IsIdentifier name := by
  refine ⟨fun hn => ?_, .identifier⟩
  cases hn
  case word hk => exact absurd hk (not_renamed_iff.mp h).left
  case negated rest _ => exact absurd (.inr ⟨rest, rfl, rfl⟩) (h ("neg_" ++ rest))
  case identifier hi => exact hi

theorem isIdentifier_classify :
    alphabet.IsIdentifier (classify name).identifier ↔ alphabet.Nameable name := by
  obtain hr | ⟨hn, he⟩ := identifier_classify_cases name
  case inr => rw [he, nameable_of_not_renamed hn]
  case inl =>
    obtain hw | ⟨rest, rfl, he⟩ := hr
    case inr => rw [he, isOpening_negated.isIdentifier_append, nameable_negated]
    case inl =>
      have ho := isOpening_of_mem_renamedWords hw
      exact iff_of_true ho.isIdentifier (.word (List.mem_map_of_mem hw))

end Alphabet

-- The name of a parameter is an identifier exactly if that is so without its qualifier, or if it is
-- one of the words that are renamed, or letters and digits behind a hyphen. So the names in a stub
-- are identifiers exactly if that holds for all parameters of the entry.
theorem isIdentifier_ofRaw (alphabet : Alphabet) (settings : Settings) :
    (∀ raw, alphabet.IsIdentifier (Parameter.ofRaw settings raw).name ↔
      alphabet.Nameable (stripQualifiers raw.name)) ∧
    ∀ entry : Entry, entry.kind = .method →
      ((∀ p ∈ entry.shownParameters settings, alphabet.IsIdentifier p.name) ↔
        ∀ raw ∈ entry.parameters, alphabet.Nameable (stripQualifiers raw.name)) := by
  have hr raw : alphabet.IsIdentifier (Parameter.ofRaw settings raw).name ↔
      alphabet.Nameable (stripQualifiers raw.name) := by
    rw [Parameter.name_ofRaw, Alphabet.isIdentifier_classify]
  refine ⟨hr, fun entry hk => ?_⟩
  simp only [Entry.shownParameters, hk, List.forall_mem_map, hr]

-- The name that is shown for `-=value`.
example : ¬Alphabet.ascii.IsIdentifier "neg_=value" := by decide

-- A parameter with a keyword for a name that is not renamed.
def keywordParameter : Xml.Element where
  tag.name := { localName := "argument" }
  tag.attributes := [⟨{ localName := "name" }, "new"⟩, ⟨{ localName := "type" }, "Object"⟩]
  children := []

theorem not_isIdentifier_keyword : ∃ raw,
    RawParameter.ofElement "hide" keywordParameter = .ok raw ∧
      (Parameter.ofRaw {} raw).name = "new" ∧
      ∀ alphabet : Alphabet, ¬alphabet.IsIdentifier (Parameter.ofRaw {} raw).name := by
  have hs : stripQualifiers "new" = "new" := by decide +kernel
  have hn : (Parameter.ofRaw {} ⟨"new", "Object", ""⟩).name = "new" := by
    rw [Parameter.name_ofRaw, hs]
    decide
  refine ⟨⟨"new", "Object", ""⟩, ?_, hn, fun alphabet h => h.notReserved ?_⟩
  · exact RawParameter.ofElement_eq_ok.mpr ⟨_, _, rfl, by rw [hs]; decide, rfl, rfl⟩
  · rw [hn]
    decide

end ApiStubs
