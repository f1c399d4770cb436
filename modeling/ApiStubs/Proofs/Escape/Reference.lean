import ApiStubs.Escape

/-!
The references written for special characters. The replacements, made one after the other, come to a
single one that looks at each character once, and what they write can be read again.
-/

namespace ApiStubs.Escape

def contentChar (c : Char) : List Char :=
  if c = '&' then "&amp;".toList
  else if c = '<' then "&lt;".toList
  else if c = '>' then "&gt;".toList
  else [c]

def htmlChar (c : Char) : List Char :=
  if c = '"' then "&quot;".toList else contentChar c

theorem contentChar_of_plain {c : Char} (h : c ∉ ['&', '<', '>']) : contentChar c = [c] := by
  have ⟨ha, hl, hg⟩ : c ≠ '&' ∧ c ≠ '<' ∧ c ≠ '>' := by simpa using h
  rw [contentChar, if_neg ha, if_neg hl, if_neg hg]

theorem htmlChar_of_plain {c : Char} (h : c ∉ ['"', '&', '<', '>']) : htmlChar c = [c] := by
  have hq : c ≠ '"' := List.ne_of_not_mem_cons h
  rw [htmlChar, if_neg hq, contentChar_of_plain <| List.not_mem_of_not_mem_cons h]

theorem lt_not_mem_contentChar (c : Char) : '<' ∉ contentChar c := by
  by_cases h : c ∈ ['&', '<', '>']
  case pos =>
    obtain rfl | rfl | rfl : c = '&' ∨ c = '<' ∨ c = '>' := by simpa using h
    all_goals decide
  case neg =>
    rw [contentChar_of_plain h, List.mem_singleton]
    exact fun hc => h (hc ▸ by decide)

theorem not_mem_htmlChar {special : Char} (hs : special ∈ ['"', '<', '>']) (c : Char) :
    special ∉ htmlChar c := by
  by_cases h : c ∈ ['"', '&', '<', '>']
  case pos =>
    obtain rfl | rfl | rfl : special = '"' ∨ special = '<' ∨ special = '>' := by simpa using hs
    all_goals
      obtain rfl | rfl | rfl | rfl : c = '"' ∨ c = '&' ∨ c = '<' ∨ c = '>' := by simpa using h
      all_goals decide
  case neg =>
    rw [htmlChar_of_plain h, List.mem_singleton]
    rintro rfl
    exact h (List.Sublist.mem hs (by decide))

theorem replaceChar_of_ne {c d : Char} (text : List Char) (h : d ≠ c) :
    replaceChar c text [d] = [d] := by
  simp [replaceChar, h]

theorem replaceChar_append (c : Char) (text s t : List Char) :
    replaceChar c text (s ++ t) = replaceChar c text s ++ replaceChar c text t :=
  List.flatMap_append

theorem contentChars_append (s t : List Char) :
    contentChars (s ++ t) = contentChars s ++ contentChars t := by
  simp only [contentChars, replaceChar_append]

theorem htmlChars_append (s t : List Char) : htmlChars (s ++ t) = htmlChars s ++ htmlChars t := by
  simp only [htmlChars, contentChars_append, replaceChar_append]

-- No later replacement finds a character that an earlier one has written.
theorem contentChars_singleton (c : Char) : contentChars [c] = contentChar c := by
  by_cases h : c ∈ ['&', '<', '>']
  case pos =>
    obtain rfl | rfl | rfl : c = '&' ∨ c = '<' ∨ c = '>' := by simpa using h
    all_goals decide
  case neg =>
    have ⟨ha, hl, hg⟩ : c ≠ '&' ∧ c ≠ '<' ∧ c ≠ '>' := by simpa using h
    rw [contentChar_of_plain h, contentChars, replaceChar_of_ne _ ha, replaceChar_of_ne _ hl,
      replaceChar_of_ne _ hg]

theorem htmlChars_singleton (c : Char) : htmlChars [c] = htmlChar c := by
  by_cases h : c ∈ ['"', '&', '<', '>']
  case pos =>
    obtain rfl | rfl | rfl | rfl : c = '"' ∨ c = '&' ∨ c = '<' ∨ c = '>' := by simpa using h
    all_goals decide
  case neg =>
    have hq : c ≠ '"' := List.ne_of_not_mem_cons h
    have hc : c ∉ ['&', '<', '>'] := List.not_mem_of_not_mem_cons h
    rw [htmlChar_of_plain h, htmlChars, contentChars_singleton, contentChar_of_plain hc,
      replaceChar_of_ne _ hq]

theorem contentChars_eq_flatMap (s : List Char) : contentChars s = s.flatMap contentChar := by
  induction s
  case nil => rfl
  case cons c s hi =>
    rw [List.flatMap_cons, ← hi, ← contentChars_singleton, ← contentChars_append,
      List.singleton_append]

theorem htmlChars_eq_flatMap (s : List Char) : htmlChars s = s.flatMap htmlChar := by
  induction s
  case nil => rfl
  case cons c s hi =>
    rw [List.flatMap_cons, ← hi, ← htmlChars_singleton, ← htmlChars_append, List.singleton_append]

theorem lt_not_mem_contentChars (s : List Char) : '<' ∉ contentChars s := by
  rw [contentChars_eq_flatMap, List.mem_flatMap]
  exact fun ⟨c, _, h⟩ => lt_not_mem_contentChar c h

theorem not_mem_htmlChars {special : Char} (hs : special ∈ ['"', '<', '>']) (s : List Char) :
    special ∉ htmlChars s := by
  rw [htmlChars_eq_flatMap, List.mem_flatMap]
  exact fun ⟨c, _, h⟩ => not_mem_htmlChar hs c h

-- The character that a reference stands for, the `&` and the `;` excepted.
def referred? : List Char → Option Char
  | ['a', 'm', 'p'] => some '&'
  | ['l', 't'] => some '<'
  | ['g', 't'] => some '>'
  | ['q', 'u', 'o', 't'] => some '"'
  | _ => none

-- How far a text with references has been read.
structure Reading where
  read : List Char := []
  -- What has been read of a reference that has not ended yet, the `&` excepted.
  reference : Option (List Char) := none

-- Reads one more character. A character that must be written as a reference is refused.
def Reading.step (r : Reading) (c : Char) : Option Reading :=
  match r.reference with
  | none =>
    if c = '&' then some ⟨r.read, some []⟩
    else if c = '<' ∨ c = '>' then none
    else some ⟨r.read ++ [c], none⟩
  | some name =>
    if c = ';' then (referred? name).map fun c => ⟨r.read ++ [c], none⟩
    else some ⟨r.read, some (name ++ [c])⟩

namespace Reading

-- Every character reads as itself, whichever way it is written.
theorem step_contentChar (read : List Char) (c : Char) :
    (contentChar c).foldlM step ⟨read, none⟩ = some ⟨read ++ [c], none⟩ := by
  unfold contentChar
  split
  case isTrue h => simp [step, referred?, h]
  case isFalse ha =>
    split
    case isTrue h => simp [step, referred?, h]
    case isFalse hl =>
      split
      case isTrue h => simp [step, referred?, h]
      case isFalse hg => simp [step, ha, hl, hg]

theorem step_htmlChar (read : List Char) (c : Char) :
    (htmlChar c).foldlM step ⟨read, none⟩ = some ⟨read ++ [c], none⟩ := by
  unfold htmlChar
  split
  case isTrue h => simp [step, referred?, h]
  case isFalse => exact step_contentChar read c

theorem steps_flatMap {write : Char → List Char} (s : List Char)
    (h : ∀ read c, (write c).foldlM step ⟨read, none⟩ = some ⟨read ++ [c], none⟩)
    (read : List Char) :
    (s.flatMap write).foldlM step ⟨read, none⟩ = some ⟨read ++ s, none⟩ := by
  induction s generalizing read
  case nil => simp
  case cons c s hi => simp [List.foldlM_append, h, hi]

theorem steps_contentChars (read s : List Char) :
    (contentChars s).foldlM step ⟨read, none⟩ = some ⟨read ++ s, none⟩ := by
  rw [contentChars_eq_flatMap]
  exact steps_flatMap s step_contentChar read

theorem steps_htmlChars (read s : List Char) :
    (htmlChars s).foldlM step ⟨read, none⟩ = some ⟨read ++ s, none⟩ := by
  rw [htmlChars_eq_flatMap]
  exact steps_flatMap s step_htmlChar read

end Reading
end ApiStubs.Escape
