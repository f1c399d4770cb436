/-!
Cutting a text: behind a word that it begins with, at every occurrence of a character, at the first
occurrence of a character or of a word.
-/

namespace ApiStubs.Text

-- The parts between the occurrences of `c`, one more than there are occurrences.
def splitChars (c : Char) : List Char → List (List Char)
  | [] => [[]]
  | x :: s =>
    if x = c then [] :: splitChars c s
    else match splitChars c s with
      | [] => [[x]]
      | part :: parts => (x :: part) :: parts

theorem splitChars_ne_nil (c : Char) (s : List Char) : splitChars c s ≠ [] := by
  cases s with
  | nil => simp [splitChars]
  | cons x s => rw [splitChars]; split <;> (try split) <;> simp

theorem splitChars_of_not_mem {c : Char} {s : List Char} (h : c ∉ s) : splitChars c s = [s] := by
  induction s with
  | nil => rfl
  | cons x s ih => simp_all [splitChars, Ne.symm]

-- The texts before and after the first `c`.
def cutChars? (c : Char) : List Char → Option (List Char × List Char)
  | [] => none
  | x :: s => if x = c then some ([], s) else (cutChars? c s).map fun (a, b) => (x :: a, b)

theorem cutChars?_eq_some {c : Char} {s a b : List Char} (h : cutChars? c s = some (a, b)) :
    s = a ++ c :: b ∧ c ∉ a := by
  induction s generalizing a with
  | nil => simp [cutChars?] at h
  | cons x s ih =>
    rw [cutChars?] at h
    split at h
    · simp_all
    · obtain ⟨⟨a', b'⟩, hp, he⟩ := Option.map_eq_some_iff.1 h
      simp only [Prod.mk.injEq] at he
      obtain ⟨rfl, rfl⟩ := he
      have ⟨hs, hc⟩ := ih hp
      simp_all [Ne.symm]

-- What follows `word` in a text that begins with it.
def dropWord? : List Char → List Char → Option (List Char)
  | [], s => some s
  | c :: word, d :: s => if c = d then dropWord? word s else none
  | _ :: _, [] => none

theorem dropWord?_eq_some {word s rest : List Char} :
    dropWord? word s = some rest ↔ s = word ++ rest := by
  induction word generalizing s with
  | nil => simp [dropWord?, eq_comm]
  | cons c word ih => cases s <;> grind [dropWord?]

-- The texts before and after the first `word`.
def cutWord? (word : List Char) : List Char → Option (List Char × List Char)
  | [] => if word.isEmpty then some ([], []) else none
  | c :: s =>
    match dropWord? word (c :: s) with
    | some rest => some ([], rest)
    | none => (cutWord? word s).map fun (before, rest) => (c :: before, rest)

end ApiStubs.Text
