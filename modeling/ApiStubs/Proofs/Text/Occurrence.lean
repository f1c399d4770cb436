import Mathlib.Data.List.Chain

/-!
Where a word stands in a text, and texts in which one character never directly follows another.
-/

namespace ApiStubs.Text

variable {a b c : Char} {s t : List Char} {i : Nat}

def OccursAt (word s : List Char) (i : Nat) : Prop :=
  word <+: s.drop i

instance (word s : List Char) (i : Nat) : Decidable (OccursAt word s i) :=
  inferInstanceAs (Decidable (_ <+: _))

theorem occursAt_pair : OccursAt [a, b] s i ↔ s[i]? = some a ∧ s[i + 1]? = some b := by
  have h₀ : (s.drop i)[0]? = s[i]? := by simp
  have h₁ : (s.drop i)[1]? = s[i + 1]? := by simp
  rw [OccursAt, ← h₀, ← h₁]
  match s.drop i with
  | [] | [_]    => simp
  | x :: y :: _ => simp [List.cons_prefix_cons, eq_comm]

-- Nowhere does a `b` directly follow an `a`.
def Apart (a b : Char) (s : List Char) : Prop :=
  s.IsChain fun x y => ¬(x = a ∧ y = b)

instance (a b : Char) : DecidablePred (Apart a b) :=
  fun s => inferInstanceAs (Decidable (s.IsChain _))

namespace Apart

theorem not_occursAt (h : Apart a b s) : ¬OccursAt [a, b] s i := by
  intro ho
  have ⟨ha, hb⟩ := occursAt_pair.mp ho
  have ⟨hi, ha⟩ := List.getElem?_eq_some_iff.mp ha
  have ⟨hj, hb⟩ := List.getElem?_eq_some_iff.mp hb
  exact List.isChain_iff_getElem.mp h i hj ⟨ha, hb⟩

theorem of_not_occursAt (h : ∀ i, ¬OccursAt [a, b] s i) : Apart a b s := by
  refine List.isChain_iff_getElem.mpr fun i hi ⟨ha, hb⟩ => h i (occursAt_pair.mpr ?_)
  exact ⟨List.getElem?_eq_some_iff.mpr ⟨_, ha⟩, List.getElem?_eq_some_iff.mpr ⟨hi, hb⟩⟩

theorem tail (h : Apart a b (c :: s)) : Apart a b s :=
  List.IsChain.tail h

theorem of_isInfix (h : Apart a b t) (hs : s <:+: t) : Apart a b s := by
  obtain ⟨before, after, rfl⟩ := hs
  exact List.IsChain.left_of_append h |>.right_of_append

theorem cons (hc : ∀ x ∈ s.head?, ¬(c = a ∧ x = b)) (h : Apart a b s) : Apart a b (c :: s) :=
  List.isChain_cons.mpr ⟨hc, h⟩

theorem of_not_mem (h : a ∉ s) : Apart a b s := by
  induction s
  case nil            => exact List.isChain_nil
  case cons x rest hi =>
    rw [List.mem_cons, not_or] at h
    exact .cons (fun _ _ hx => h.left hx.left.symm) (hi h.right)

theorem append (hs : Apart a b s) (ht : Apart a b t)
    (hm : ∀ x ∈ s.getLast?, ∀ y ∈ t.head?, ¬(x = a ∧ y = b)) : Apart a b (s ++ t) :=
  List.isChain_append.mpr ⟨hs, ht, hm⟩

-- A pair at the start of a text that has no other one.
theorem occursAt_cons_cons (h : Apart a b (b :: s)) : OccursAt [a, b] (a :: b :: s) i ↔ i = 0 := by
  constructor
  case mp =>
    intro ho
    cases i
    case zero   => rfl
    case succ i => exact absurd ho h.not_occursAt
  case mpr => simp +contextual [OccursAt]

-- A pair at the end of a text that has no other one.
theorem occursAt_append (h : Apart a b (s ++ [a])) :
    OccursAt [a, b] (s ++ [a, b]) i ↔ i = s.length := by
  constructor
  case mp =>
    intro ho
    by_contra hi
    have ⟨ha, hb⟩ := occursAt_pair.mp ho
    have hlt : i + 1 < (s ++ [a, b]).length := (List.getElem?_eq_some_iff.mp hb).1
    simp only [List.length_append, List.length_cons, List.length_nil] at hlt
    have hs : i < s.length := by omega
    refine h.not_occursAt (occursAt_pair.mpr ⟨?_, ?_⟩ : OccursAt [a, b] (s ++ [a]) i)
    · simpa [List.getElem?_append, hs] using ha
    · by_cases hi' : i + 1 < s.length
      case pos => simpa [List.getElem?_append, hi'] using hb
      case neg =>
        have he : i + 1 = s.length := by omega
        simp_all
  case mpr => simp +contextual [OccursAt]

end Apart
end ApiStubs.Text
