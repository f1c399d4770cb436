import Mathlib.Data.List.ReduceOption
import ApiStubs.Proofs.Escape.Comment

/-!
Comment markers taken apart in one pass. The second replacement works on what the first one has
written, and the markers overlap, yet together they put a blank between any two neighbours that form
a marker, and do nothing else.
-/

namespace ApiStubs.Escape

open Text (OccursAt)

variable {x y : Char} {s t : List Char}

-- The two characters close or open a comment.
def Marker (x y : Char) : Prop :=
  x = '*' ∧ y = '/' ∨ x = '/' ∧ y = '*'

instance (x y : Char) : Decidable (Marker x y) :=
  inferInstanceAs (Decidable (_ ∨ _))

-- A text with a gap, written as `none`, wherever a blank has to go.
def gapped : List Char → List (Option Char)
  | x :: y :: s =>
    if Marker x y then some x :: none :: gapped (y :: s) else some x :: gapped (y :: s)
  | s => s.map some

-- Puts the blanks in.
def fill (s : List (Option Char)) : List Char :=
  s.map (·.getD ' ')

-- The last character of one text and the first one of another form a marker.
def Meet (s t : List Char) : Prop :=
  ∃ x ∈ s.getLast?, ∃ y ∈ t.head?, Marker x y

instance (s t : List Char) : Decidable (Meet s t) :=
  inferInstanceAs (Decidable (∃ x ∈ s.getLast?, ∃ y ∈ t.head?, Marker x y))

def gap (s t : List Char) : List (Option Char) :=
  if Meet s t then [none] else []

theorem not_meet_of_neutral (h : (∀ x ∈ s.getLast?, Neutral x) ∨ ∀ y ∈ t.head?, Neutral y) :
    ¬Meet s t := by
  rintro ⟨x, hx, y, hy, hm⟩
  cases h
  case inl h => simp [Marker, (h x hx).left, (h x hx).right] at hm
  case inr h => simp [Marker, (h y hy).left, (h y hy).right] at hm

theorem meet_cons_cons : Meet (x :: y :: s) t ↔ Meet (y :: s) t := by
  rw [Meet, List.getLast?_cons_cons]
  rfl

theorem gapped_append (s t : List Char) : gapped (s ++ t) = gapped s ++ gap s t ++ gapped t := by
  fun_induction gapped s
  case case1 x y s h ih =>
    simp only [List.cons_append] at ih ⊢
    rw [gapped, if_pos h, ih]
    simp only [gap, meet_cons_cons]
  case case2 x y s h ih =>
    simp only [List.cons_append] at ih ⊢
    rw [gapped, if_neg h, ih]
    simp only [gap, meet_cons_cons]
  case case3 s hs =>
    match s, hs with
    | [], _           => simp [gap, Meet]
    | x :: y :: s, hs => exact absurd rfl (hs x y s)
    | [x], _          =>
      cases t
      case nil => simp [gap, Meet, gapped]
      case cons y t => by_cases h : Marker x y <;> simp [gap, Meet, gapped, h]

theorem reduceOption_gapped (s : List Char) : (gapped s).reduceOption = s := by
  fun_induction gapped s
  case case1 ih => simpa using ih
  case case2 ih => simpa using ih
  case case3 =>
    rw [List.reduceOption, List.filterMap_map]
    exact List.filterMap_some

theorem gapped_of_unmarked (h : Unmarked s) : gapped s = s.map some := by
  fun_induction gapped s
  case case1 x y s hm _ =>
    cases hm
    case inl hm => exact absurd hm (List.isChain_cons_cons.mp h.closing).left
    case inr hm => exact absurd hm (List.isChain_cons_cons.mp h.opening).left
  case case2 ih => exact congrArg _ (ih ⟨h.closing.tail, h.opening.tail⟩)
  case case3    => rfl

-- The first character of a marker is settled by one replacement, and the second one is left to
-- what follows it.
theorem commentChars_of_marker (h : Marker x y) (s : List Char) :
    commentChars (x :: y :: s) = x :: ' ' :: commentChars (y :: s) := by
  obtain ⟨rfl, rfl⟩ | ⟨rfl, rfl⟩ := h
  case inl =>
    have hs : separate '*' '/' ('/' :: s) = '/' :: separate '*' '/' s := by
      cases s <;> simp [separate]
    simp [commentChars, separate, hs]
  case inr =>
    obtain ⟨u, hu⟩ : ∃ u, separate '*' '/' ('*' :: s) = '*' :: u :=
      List.head?_eq_some_iff.mp head?_separate
    have hs : separate '/' '*' ('*' :: u) = '*' :: separate '/' '*' u := by
      cases u <;> simp [separate]
    simp [commentChars, separate, hu, hs]

theorem commentChars_append_of_not_meet (h : ¬Meet s t) :
    commentChars (s ++ t) = commentChars s ++ commentChars t :=
  commentChars_append fun x hx y hy => not_or.mp fun hm => h ⟨x, hx, y, hy, hm⟩

theorem commentChars_eq_fill (s : List Char) : commentChars s = fill (gapped s) := by
  fun_induction gapped s
  case case1 h ih =>
    rw [commentChars_of_marker h, ih]
    rfl
  case case2 x y s h ih =>
    have hn : ¬Meet [x] (y :: s) := by simpa [Meet] using h
    rw [← List.singleton_append, commentChars_append_of_not_meet hn, ih]
    rfl
  case case3 s hs =>
    match s, hs with
    | [], _ | [_], _  => rfl
    | x :: y :: s, hs => exact absurd rfl (hs x y s)

theorem commentChars_append_gap (s t : List Char) :
    commentChars (s ++ t) = commentChars s ++ fill (gap s t) ++ commentChars t := by
  simp only [commentChars_eq_fill, gapped_append, fill, List.map_append]

theorem commentChars_of_unmarked (h : Unmarked s) : commentChars s = s := by
  rw [commentChars_eq_fill, gapped_of_unmarked h, fill, List.map_map]
  exact List.map_id s

theorem commentChars_append_iff :
    commentChars (s ++ t) = commentChars s ++ commentChars t ↔ ¬Meet s t := by
  refine ⟨fun h hm => ?_, commentChars_append_of_not_meet⟩
  have hl := congrArg List.length h
  simp [commentChars_append_gap, gap, fill, hm] at hl

theorem Unmarked.not_occursAt (h : Unmarked s) (i : Nat) :
    ¬OccursAt ['*', '/'] s i ∧ ¬OccursAt ['/', '*'] s i :=
  ⟨h.closing.not_occursAt, h.opening.not_occursAt⟩

-- One pass puts a blank between any two neighbours that form a marker. Without these blanks it is
-- the text as it was, with them there is no marker in it, and a second time nothing is put in. Two
-- texts may be escaped one by one exactly if they do not meet in a marker.
theorem comment_in_one_pass (s : String) :
    (comment s).toList = fill (gapped s.toList) ∧
    (gapped s.toList).reduceOption = s.toList ∧
    (∀ i, ¬OccursAt ['*', '/'] (comment s).toList i ∧ ¬OccursAt ['/', '*'] (comment s).toList i) ∧
    comment (comment s) = comment s ∧
    ∀ t : String, comment (s ++ t) = comment s ++ comment t ↔ ¬Meet s.toList t.toList := by
  have hu : Unmarked (comment s).toList := by
    rw [toList_comment]
    exact unmarked_commentChars s.toList
  refine ⟨?_, reduceOption_gapped _, hu.not_occursAt, ?_, fun t => ?_⟩
  · rw [toList_comment, commentChars_eq_fill]
  · rw [← String.toList_inj, toList_comment, commentChars_of_unmarked hu]
  · rw [← commentChars_append_iff, ← String.toList_inj]
    simp only [toList_comment, String.toList_append]

end ApiStubs.Escape
