import ApiStubs.Text.Lines
import Mathlib.Data.List.Infix

/-!
Lines as parts of the text that they come from, and as the pieces between its line feeds.
-/

namespace ApiStubs.Text

variable {s l : List Char}

theorem isPrefix_of_head?_lineChars (h : l ∈ (lineChars s).head?) : l <+: s := by
  fun_induction lineChars s generalizing l
  case case1 => simp at h
  case case2 => simp_all
  case case3 => simp_all
  case case4 c s _ _ ih =>
    cases hs : lineChars s <;> simp [hs, consLine] at h ih
    case nil  => subst h; simp
    case cons => subst h; simpa

-- The first line is followed outside the recursion since it grows on the way back.
theorem isInfix_of_mem_lineChars (h : l ∈ lineChars s) : l <:+: s := by
  fun_induction lineChars s generalizing l
  case case1 => simp at h
  case case2 s ih =>
    cases h
    case head   => exact List.nil_infix
    case tail h => exact List.infix_cons (ih h)
  case case3 s ih =>
    cases h
    case head   => exact List.nil_infix
    case tail h => exact List.infix_cons <| List.infix_cons (ih h)
  case case4 c s hn hr ih =>
    cases hs : lineChars s <;> simp only [hs, consLine, List.mem_cons, List.not_mem_nil] at h ih
    case nil =>
      have hl : l = [c] := by simpa using h
      exact hl ▸ (List.prefix_append [c] s).isInfix
    case cons first rest =>
      have hf : first <+: s := isPrefix_of_head?_lineChars (by simp [hs])
      cases h
      case inl h => exact h ▸ (List.cons_prefix_cons.mpr ⟨rfl, hf⟩).isInfix
      case inr h => exact List.infix_cons (ih (.inr h))

theorem lineChars_ne_nil (h : s ≠ []) : lineChars s ≠ [] := by
  fun_cases lineChars s
  case case1 => contradiction
  case case4 c s _ _ => cases hs : lineChars s <;> simp [consLine]
  all_goals simp

variable {c : Char} {piece : List Char} {pieces : List (List Char)}

-- A piece of a text that a line feed follows, without the carriage return before the line feed.
def dropReturn (piece : List Char) : List Char :=
  if piece.getLast? = some '\r' then piece.dropLast else piece

-- The lines of a text that line feeds cut into pieces. An empty piece at the end is no line.
def pieceLines : List (List Char) → List (List Char)
  | []              => []
  | [last]          => if last = [] then [] else [last]
  | piece :: pieces => dropReturn piece :: pieceLines pieces

theorem splitOn_newline_cons : ('\n' :: s).splitOn '\n' = [] :: s.splitOn '\n' := by
  simp [List.splitOn_eq_splitOnP, List.splitOnP_cons_eq_if_modifyHead]

theorem splitOn_newline_cons_of_ne (h : c ≠ '\n') :
    (c :: s).splitOn '\n' = (s.splitOn '\n').modifyHead (c :: ·) := by
  simp [List.splitOn_eq_splitOnP, List.splitOnP_cons_eq_if_modifyHead, h]

theorem dropReturn_cons (h : piece ≠ [] ∨ c ≠ '\r') :
    dropReturn (c :: piece) = c :: dropReturn piece := by
  cases piece
  case nil         => simpa [dropReturn] using h
  case cons x rest =>
    have hl : (c :: x :: rest).getLast? = (x :: rest).getLast? := List.getLast?_cons_cons
    simp only [dropReturn, hl]
    split <;> rfl

theorem consLine_pieceLines (h : piece ≠ [] ∨ pieces = [] ∨ c ≠ '\r') :
    consLine c (pieceLines (piece :: pieces)) = pieceLines ((c :: piece) :: pieces) := by
  cases pieces
  case nil =>
    by_cases hp : piece = [] <;> simp [pieceLines, consLine, hp]
  case cons next rest =>
    have hp : piece ≠ [] ∨ c ≠ '\r' := by simpa using h
    simp only [pieceLines, consLine, dropReturn_cons hp]

-- Only a text that begins with a line feed has nothing in front of its first one.
theorem head?_eq_newline_of_splitOn (h : s.splitOn '\n' = [] :: pieces) (hp : pieces ≠ []) :
    s.head? = some '\n' := by
  cases s
  case nil      => simp_all
  case cons x s =>
    by_contra hx
    have hx : x ≠ '\n' := by simpa using hx
    cases hs : s.splitOn '\n' <;> simp [splitOn_newline_cons_of_ne hx, hs] at h

theorem lineChars_eq_pieceLines (s : List Char) : lineChars s = pieceLines (s.splitOn '\n') := by
  fun_induction lineChars s
  case case1 => rfl
  case case2 s hi =>
    obtain ⟨piece, pieces, hs⟩ := List.exists_cons_of_ne_nil (List.splitOn_ne_nil '\n' s)
    rw [splitOn_newline_cons, hi, hs]
    rfl
  case case3 s hi =>
    obtain ⟨piece, pieces, hs⟩ := List.exists_cons_of_ne_nil (List.splitOn_ne_nil '\n' s)
    rw [splitOn_newline_cons_of_ne (by decide), splitOn_newline_cons, hi, hs]
    rfl
  case case4 c s hn hr hi =>
    obtain ⟨piece, pieces, hs⟩ := List.exists_cons_of_ne_nil (List.splitOn_ne_nil '\n' s)
    rw [splitOn_newline_cons_of_ne hn, hi, hs, List.modifyHead_cons, consLine_pieceLines]
    by_contra! h
    obtain ⟨rfl, hp, rfl⟩ := h
    have hh := head?_eq_newline_of_splitOn hs hp
    cases s <;> simp_all

theorem pieceLines_append {pieces' : List (List Char)} (h : pieces' ≠ []) :
    pieceLines (pieces ++ pieces') = pieces.map dropReturn ++ pieceLines pieces' := by
  induction pieces
  case nil => rfl
  case cons piece pieces hi =>
    have hn : pieces ++ pieces' ≠ [] := by simp [h]
    obtain ⟨next, rest, hr⟩ := List.exists_cons_of_ne_nil hn
    rw [List.cons_append, hr, pieceLines, ← hr, hi]
    · rfl
    · simp

-- What follows a line feed has its own lines.
theorem lineChars_append_newline (s t : List Char) :
    lineChars (s ++ '\n' :: t) = (s.splitOn '\n').map dropReturn ++ lineChars t := by
  rw [lineChars_eq_pieceLines, lineChars_eq_pieceLines t, List.splitOn_append_cons_self,
    pieceLines_append (List.splitOn_ne_nil '\n' t)]

end ApiStubs.Text
