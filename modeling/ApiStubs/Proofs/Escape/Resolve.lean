import ApiStubs.Proofs.Escape.Reference

/-!
References taken out of a text again, in one pass from left to right. What is no reference stays, so
every text has a result, and of an escaped text it is the text that was escaped.
-/

namespace ApiStubs.Escape

-- What is written for a character.
structure Reference where
  text : List Char
  char : Char
  deriving DecidableEq

def contentReferences : List Reference :=
  [⟨"&amp;".toList, '&'⟩, ⟨"&lt;".toList, '<'⟩, ⟨"&gt;".toList, '>'⟩]

def htmlReferences : List Reference :=
  contentReferences ++ [⟨"&quot;".toList, '"'⟩]

-- Puts characters in the place of their references. The pass goes on behind a reference, so what
-- has been put in is not looked at again.
def resolve (references : List Reference) (s : List Char) : List Char :=
  match s with
  | [] => []
  | c :: s =>
    match references.find? (·.text <+: c :: s) with
    | some r => r.char :: resolve references (s.drop (r.text.length - 1))
    | none => c :: resolve references s
termination_by s.length

-- References are set off from the rest of a text, and from each other.
structure Readable (references : List Reference) : Prop where
  ampersand : ∀ r ∈ references, r.text.head? = some '&'
  distinct : ∀ r ∈ references, ∀ r' ∈ references, r.text <+: r'.text → r = r'

theorem readable_contentReferences : Readable contentReferences :=
  ⟨by decide, by decide⟩

theorem readable_htmlReferences : Readable htmlReferences :=
  ⟨by decide, by decide⟩

namespace Readable

variable {references : List Reference} {r : Reference} {c : Char}

theorem resolve_cons (h : Readable references) (hc : c ≠ '&') (s : List Char) :
    resolve references (c :: s) = c :: resolve references s := by
  have hn : references.find? (·.text <+: c :: s) = none := by
    rw [List.find?_eq_none]
    intro r hr hp
    obtain ⟨t, ht⟩ := List.head?_eq_some_iff.mp (h.ampersand r hr)
    rw [decide_eq_true_iff, ht, List.cons_prefix_cons] at hp
    exact hc hp.left.symm
  rw [resolve, hn]

theorem find?_append (h : Readable references) (hr : r ∈ references) (s : List Char) :
    references.find? (·.text <+: r.text ++ s) = some r := by
  cases hf : references.find? (·.text <+: r.text ++ s)
  case none =>
    have hn := List.find?_eq_none.mp hf r hr
    simp at hn
  case some r' =>
    have hm := List.mem_of_find?_eq_some hf
    have hp : r'.text <+: r.text ++ s := by simpa using List.find?_some hf
    cases List.prefix_or_prefix_of_prefix hp (List.prefix_append r.text s)
    case inl hp => rw [h.distinct r' hm r hr hp]
    case inr hp => rw [h.distinct r hr r' hm hp]

theorem resolve_append (h : Readable references) (hr : r ∈ references) (s : List Char) :
    resolve references (r.text ++ s) = r.char :: resolve references s := by
  obtain ⟨t, ht⟩ := List.head?_eq_some_iff.mp (h.ampersand r hr)
  have hf : references.find? (·.text <+: '&' :: (t ++ s)) = some r := by
    simpa [ht] using h.find?_append hr s
  have hd : (t ++ s).drop (r.text.length - 1) = s := by simp [ht]
  rw [ht, List.cons_append, resolve, hf]
  exact congrArg _ (congrArg _ hd)

-- Where each character is written as its reference or, if it is not what one begins with, as it is,
-- the pass finds what was written.
theorem resolve_flatMap (h : Readable references) {write : Char → List Char}
    (hw : ∀ c, ⟨write c, c⟩ ∈ references ∨ c ≠ '&' ∧ write c = [c]) (s : List Char) :
    resolve references (s.flatMap write) = s := by
  induction s
  case nil => simp [resolve]
  case cons c s hi =>
    rw [List.flatMap_cons]
    cases hw c
    case inl hm => rw [h.resolve_append hm, hi]
    case inr hc => rw [hc.right, List.singleton_append, h.resolve_cons hc.left, hi]

end Readable

theorem contentChar_cases (c : Char) :
    ⟨contentChar c, c⟩ ∈ contentReferences ∨ c ≠ '&' ∧ contentChar c = [c] := by
  by_cases h : c ∈ ['&', '<', '>']
  case pos =>
    obtain rfl | rfl | rfl : c = '&' ∨ c = '<' ∨ c = '>' := by simpa using h
    all_goals exact .inl (by decide)
  case neg => exact .inr ⟨List.ne_of_not_mem_cons h, contentChar_of_plain h⟩

theorem htmlChar_cases (c : Char) :
    ⟨htmlChar c, c⟩ ∈ htmlReferences ∨ c ≠ '&' ∧ htmlChar c = [c] := by
  unfold htmlChar
  split
  case isTrue h  => exact .inl (h ▸ by decide)
  case isFalse h => exact (contentChar_cases c).imp_left (List.mem_append_left _)

theorem resolve_contentChars (s : List Char) : resolve contentReferences (contentChars s) = s := by
  rw [contentChars_eq_flatMap]
  exact readable_contentReferences.resolve_flatMap contentChar_cases s

theorem resolve_htmlChars (s : List Char) : resolve htmlReferences (htmlChars s) = s := by
  rw [htmlChars_eq_flatMap]
  exact readable_htmlReferences.resolve_flatMap htmlChar_cases s

end ApiStubs.Escape
