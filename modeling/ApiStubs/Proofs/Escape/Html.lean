import ApiStubs.Proofs.Escape.OnePass
import ApiStubs.Proofs.Escape.Resolve

/-!
Texts escaped for HTML: nothing is lost, and it does not matter whether comment markers are taken
apart before or after. References neither have a marker in them nor make one with what is next to
them, and blanks are written as they are.
-/

namespace ApiStubs.Escape

open Text (OccursAt)

variable {c : Char} {s t : List Char}

-- A character that is part of markers is written as it is. All others are neutral on both sides.
theorem htmlChar_neutral_cases (c : Char) :
    htmlChar c = [c] ∨ Neutral c ∧ Joint (String.ofList (htmlChar c)) := by
  have hr : ∀ r ∈ htmlReferences, Neutral r.char ∧ Joint (String.ofList r.text) := by decide
  cases htmlChar_cases c
  case inl h => exact .inr (hr _ h)
  case inr h => exact .inl h.right

theorem commentChars_htmlChar (c : Char) : commentChars (htmlChar c) = htmlChar c := by
  obtain h | ⟨-, h⟩ := htmlChar_neutral_cases c
  case inl =>
    rw [h]
    rfl
  case inr => simpa [comment] using congrArg String.toList h.left

theorem meet_htmlChar : Meet (htmlChar c) t ↔ Meet [c] t := by
  obtain h | ⟨hc, h⟩ := htmlChar_neutral_cases c
  case inl => rw [h]
  case inr =>
    have hl : ∀ x ∈ (htmlChar c).getLast?, Neutral x := by simpa using h.last (s := "")
    have hn : ¬Meet [c] t := not_meet_of_neutral (.inl (by simpa using hc))
    exact iff_of_false (not_meet_of_neutral (.inl hl)) hn

theorem meet_htmlChars : Meet s (htmlChars t) ↔ Meet s t := by
  cases t
  case nil => rfl
  case cons c t =>
    rw [htmlChars_eq_flatMap, List.flatMap_cons]
    obtain h | ⟨hc, h⟩ := htmlChar_neutral_cases c
    case inl =>
      rw [h]
      rfl
    case inr =>
      have hf : ∀ y ∈ (htmlChar c ++ t.flatMap htmlChar).head?, Neutral y := by
        simpa [StartsNeutral] using h.startsNeutral (t := String.ofList (t.flatMap htmlChar))
      have hn : ¬Meet s (c :: t) := not_meet_of_neutral (.inr (by simpa using hc))
      exact iff_of_false (not_meet_of_neutral (.inr hf)) hn

theorem htmlChars_fill_gap (s t : List Char) : htmlChars (fill (gap s t)) = fill (gap s t) := by
  unfold gap
  split <;> rfl

theorem commentChars_htmlChars (s : List Char) :
    commentChars (htmlChars s) = htmlChars (commentChars s) := by
  induction s
  case nil => rfl
  case cons c s hi =>
    have hg : gap (htmlChar c) (htmlChars s) = gap [c] s := by
      simp only [gap, meet_htmlChar, meet_htmlChars]
    rw [← List.singleton_append]
    calc
      _ = commentChars (htmlChar c ++ htmlChars s) := by rw [htmlChars_append, htmlChars_singleton]
      _ = htmlChar c ++ fill (gap [c] s) ++ htmlChars (commentChars s) := by
        rw [commentChars_append_gap, commentChars_htmlChar, hg, hi]
      _ = htmlChars ([c] ++ fill (gap [c] s) ++ commentChars s) := by
        rw [htmlChars_append, htmlChars_append, htmlChars_singleton, htmlChars_fill_gap]
      _ = htmlChars (commentChars ([c] ++ s)) := by
        rw [commentChars_append_gap]
        rfl

-- Each character is written on its own and read again in one pass, and markers may be taken apart
-- before or after. What comes out can be shown between quotes, in HTML, inside a comment.
theorem html_resolves_and_commutes (s : String) :
    (html s).toList = s.toList.flatMap htmlChar ∧
    resolve htmlReferences (html s).toList = s.toList ∧
    comment (html s) = html (comment s) ∧
    ('<' ∉ (html (comment s)).toList ∧ '>' ∉ (html (comment s)).toList ∧
      '"' ∉ (html (comment s)).toList) ∧
    ∀ i, ¬OccursAt ['*', '/'] (html (comment s)).toList i ∧
      ¬OccursAt ['/', '*'] (html (comment s)).toList i := by
  have hc : comment (html s) = html (comment s) := by
    simp only [← String.toList_inj, toList_comment, toList_html, commentChars_htmlChars]
  have hu : Unmarked (html (comment s)).toList := by
    rw [← hc, toList_comment]
    exact unmarked_commentChars _
  refine ⟨?_, ?_, hc, ?_, hu.not_occursAt⟩
  · rw [toList_html, htmlChars_eq_flatMap]
  · rw [toList_html, resolve_htmlChars]
  · rw [toList_html]
    exact ⟨not_mem_htmlChars (by decide) _, not_mem_htmlChars (by decide) _,
      not_mem_htmlChars (by decide) _⟩

end ApiStubs.Escape
