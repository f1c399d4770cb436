import ApiStubs.Proofs.Text.Occurrence
import ApiStubs.Text.Split
import Mathlib.Data.List.Basic

/-!
Cutting a text at every occurrence of a word of two characters, and texts that were joined with such
a word or with single characters.
-/

namespace ApiStubs.Text

variable {a b c x : Char} {s t sep last : List Char} {pieces : List (List Char)}

theorem splitChars_eq_splitOn (c : Char) (s : List Char) : splitChars c s = s.splitOn c := by
  induction s
  case nil => rfl
  case cons x s hi =>
    rw [splitChars, List.splitOn_cons_eq_if_modifyHead, hi]
    by_cases hx : x = c
    case pos => simp [hx]
    case neg =>
      obtain ⟨part, parts, hp⟩ := List.exists_cons_of_ne_nil (List.splitOn_ne_nil c s)
      simp [hx, hp]

-- The pieces of a text between the occurrences of a pair. The pair is looked for from the left.
def splitPair (a b : Char) : List Char → List (List Char)
  | x :: y :: s =>
    if x = a ∧ y = b then [] :: splitPair a b s else (splitPair a b (y :: s)).modifyHead (x :: ·)
  | s => [s]

theorem splitPair_cons (h : ∀ y ∈ s.head?, ¬(x = a ∧ y = b)) :
    splitPair a b (x :: s) = (splitPair a b s).modifyHead (x :: ·) := by
  cases s
  case nil         => rfl
  case cons y rest => rw [splitPair, if_neg (h y rfl)]

theorem splitPair_of_apart (h : Apart a b s) : splitPair a b s = [s] := by
  induction s
  case nil            => rfl
  case cons x rest hi => rw [splitPair_cons (List.isChain_cons.mp h).left, hi h.tail]; rfl

-- The first occurrence may not start with the last character of the piece before it.
theorem splitPair_append (h : Apart a b (s ++ [a])) :
    splitPair a b (s ++ a :: b :: t) = s :: splitPair a b t := by
  induction s
  case nil            => simp [splitPair]
  case cons x rest hi =>
    have hx : ∀ y ∈ (rest ++ a :: b :: t).head?, ¬(x = a ∧ y = b) := by
      have hh := (List.isChain_cons.mp h).left
      rw [List.append_eq] at hh
      simpa only [List.head?_append, List.head?_cons] using hh
    rw [List.cons_append, splitPair_cons hx, hi h.tail, List.modifyHead_cons]

theorem splitPair_intercalate (h : ∀ piece ∈ pieces, Apart a b (piece ++ [a])) (hp : pieces ≠ []) :
    splitPair a b ([a, b].intercalate pieces) = pieces := by
  induction pieces
  case nil                => contradiction
  case cons piece rest hi =>
    have hf := h piece List.mem_cons_self
    cases rest
    case nil =>
      rw [List.intercalate_singleton]
      exact splitPair_of_apart (hf.of_isInfix (List.prefix_append _ _).isInfix)
    case cons next rest =>
      have hr := hi (fun p hm => h p (List.mem_cons_of_mem _ hm)) (List.cons_ne_nil _ _)
      calc splitPair a b ([a, b].intercalate (piece :: next :: rest))
        _ = splitPair a b (piece ++ a :: b :: [a, b].intercalate (next :: rest)) := by
          rw [List.intercalate_cons_cons, List.append_assoc]; rfl
        _ = piece :: next :: rest := by rw [splitPair_append hf, hr]

theorem intercalate_concat :
    sep.intercalate (pieces ++ [last]) = pieces.flatMap (· ++ sep) ++ last := by
  induction pieces
  case nil                => simp
  case cons piece rest hi =>
    rw [List.cons_append, List.intercalate_cons_of_ne_nil (by simp), hi]
    simp

-- Where no line is empty, no line end directly follows another one.
theorem apart_flatMap_concat (h : ∀ piece ∈ pieces, piece ≠ [] ∧ c ∉ piece) :
    Apart c c (pieces.flatMap (· ++ [c])) := by
  induction pieces
  case nil                => exact List.isChain_nil
  case cons piece rest hi =>
    have ⟨hn, hc⟩ := h piece List.mem_cons_self
    have hr := hi fun p hm => h p (List.mem_cons_of_mem _ hm)
    rw [List.flatMap_cons]
    refine Apart.append (.append (.of_not_mem hc) (List.isChain_singleton c) ?piece) hr ?rest
    case piece =>
      intro x hx _ _ hxc
      exact hc (hxc.left ▸ List.mem_of_getLast? hx)
    case rest =>
      intro _ _ y hy hyc
      cases rest
      case nil            => simp at hy
      case cons next rest =>
        have ⟨hn, hc⟩ := h next (by simp)
        obtain ⟨z, next, rfl⟩ := List.exists_cons_of_ne_nil hn
        simp_all

end ApiStubs.Text
