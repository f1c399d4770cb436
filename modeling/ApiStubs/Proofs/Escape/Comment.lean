import ApiStubs.Escape
import ApiStubs.Proofs.Text.Occurrence

/-!
What escaping a text for a comment does: no marker is left, and a text may be escaped piece by piece
wherever the pieces do not meet in a marker.
-/

namespace ApiStubs.Escape

open Text (Apart)

variable {a b c d : Char} {s t : List Char}

theorem head?_separate : (separate a b s).head? = s.head? := by
  fun_induction separate a b s <;> rfl

theorem getLast?_separate : (separate a b s).getLast? = s.getLast? := by
  fun_induction separate a b s
  case case1 ih   => simp only [List.getLast?_cons, ih]; simp
  case case2 ih   => rw [List.getLast?_cons, ih, ← List.getLast?_cons]
  case case3 s' _ => rfl

-- A blank takes the two characters apart, and what follows the second one is judged anew.
theorem apart_separate (hab : a ≠ b) (ha : a ≠ ' ') (hb : b ≠ ' ') :
    Apart a b (separate a b s) := by
  fun_induction separate a b s
  case case1 x y s h ih =>
    have hy : Apart a b (y :: separate a b s) :=
      Apart.cons (fun _ _ hx => hab (hx.left.symm.trans h.right)) ih
    refine .cons ?_ <| .cons ?_ hy
    all_goals simp [hb.symm, ha.symm]
  case case2 x y s h ih =>
    refine Apart.cons (fun z hz => ?_) ih
    rw [head?_separate] at hz
    simp_all
  case case3 s h =>
    match s, h with
    | [], _          => exact List.isChain_nil
    | [x], _         => exact List.isChain_singleton x
    | x :: y :: s, h => exact absurd rfl (h x y s)

theorem apart_separate_of_apart (h : Apart c d s) (hc : c ≠ ' ') (hd : d ≠ ' ') :
    Apart c d (separate a b s) := by
  fun_induction separate a b s
  case case1 x y s _ ih =>
    have hy : Apart c d (y :: separate a b s) := by
      refine Apart.cons (fun z hz => ?_) (ih h.tail.tail)
      rw [head?_separate] at hz
      exact List.isChain_cons.mp h.tail |>.left z hz
    refine .cons ?_ <| .cons ?_ hy
    all_goals simp [hc.symm, hd.symm]
  case case2 x y s _ ih =>
    refine Apart.cons (fun z hz => ?_) (ih h.tail)
    rw [head?_separate] at hz
    exact List.isChain_cons.mp h |>.left z hz
  case case3 => exact h

theorem separate_append (h : ∀ x ∈ s.getLast?, ∀ y ∈ t.head?, ¬(x = a ∧ y = b)) :
    separate a b (s ++ t) = separate a b s ++ separate a b t := by
  fun_induction separate a b s
  case case1 x y s hxy ih =>
    have ht := ih fun z hz => h z <| by simp_all [List.getLast?_cons]
    simp [separate, hxy, ht]
  case case2 x y s hxy ih =>
    have ht := ih fun z hz => h z <| by simpa [List.getLast?_cons] using hz
    simp [separate, hxy, ← ht]
  case case3 s hs =>
    match s, hs with
    | [], _           => rfl
    | x :: y :: s, hs => exact absurd rfl (hs x y s)
    | [x], _          =>
      cases t
      case nil       => rfl
      case cons y t' =>
        have hxy : ¬(x = a ∧ y = b) := h x rfl y rfl
        simp [separate, hxy]

-- Only blanks are put in, so a text that comes out without them went in as it is.
theorem separate_eq_self (h : ' ' ∉ separate a b s) : separate a b s = s := by
  fun_induction separate a b s
  case case1 => simp at h
  case case2 x y s _ ih =>
    rw [ih (List.not_mem_of_not_mem_cons h)]
  case case3 => rfl

theorem mem_of_mem_separate (h : x ∈ separate a b s) (hx : x ≠ ' ') : x ∈ s := by
  fun_induction separate a b s
  case case1 => grind
  case case2 => grind
  case case3 => exact h

theorem mem_of_mem_commentChars (h : x ∈ commentChars s) (hx : x ≠ ' ') : x ∈ s :=
  mem_of_mem_separate (mem_of_mem_separate h hx) hx

theorem commentChars_eq_self (h : ' ' ∉ commentChars s) : commentChars s = s := by
  have ho : commentChars s = separate '*' '/' s := separate_eq_self h
  rw [ho] at h ⊢
  exact separate_eq_self h

-- Neither marker stands anywhere in the text.
structure Unmarked (s : List Char) : Prop where
  closing : Apart '*' '/' s
  opening : Apart '/' '*' s

theorem Unmarked.of_isInfix (h : Unmarked t) (hs : s <:+: t) : Unmarked s where
  closing := h.closing.of_isInfix hs
  opening := h.opening.of_isInfix hs

theorem unmarked_commentChars (s : List Char) : Unmarked (commentChars s) where
  closing :=
    apart_separate_of_apart (apart_separate (by decide) (by decide) (by decide)) (by decide)
      (by decide)
  opening := apart_separate (by decide) (by decide) (by decide)

-- No marker has the character at one of its ends.
def Neutral (c : Char) : Prop :=
  c ≠ '*' ∧ c ≠ '/'

instance : DecidablePred Neutral :=
  fun _ => inferInstanceAs (Decidable (_ ∧ _))

theorem commentChars_append (h : ∀ x ∈ s.getLast?, ∀ y ∈ t.head?,
    ¬(x = '*' ∧ y = '/') ∧ ¬(x = '/' ∧ y = '*')) :
    commentChars (s ++ t) = commentChars s ++ commentChars t := by
  rw [commentChars, separate_append fun x hx y hy => (h x hx y hy).left, separate_append]
  · rfl
  · rw [getLast?_separate, head?_separate]
    exact fun x hx y hy => (h x hx y hy).right

-- Two pieces do not meet in a marker if one of them has a neutral character there.
theorem commentChars_append_of_neutral
    (h : (∀ x ∈ s.getLast?, Neutral x) ∨ ∀ y ∈ t.head?, Neutral y) :
    commentChars (s ++ t) = commentChars s ++ commentChars t := by
  refine commentChars_append fun x hx y hy => ?_
  cases h
  case inl h => simp [(h x hx).left, (h x hx).right]
  case inr h => simp [(h y hy).left, (h y hy).right]

theorem Unmarked.append (hs : Unmarked s) (ht : Unmarked t)
    (h : (∀ x ∈ s.getLast?, Neutral x) ∨ ∀ y ∈ t.head?, Neutral y) : Unmarked (s ++ t) where
  closing := hs.closing.append ht.closing fun x hx y hy => by
    cases h
    case inl h => simp [(h x hx).left]
    case inr h => simp [(h y hy).right]
  opening := hs.opening.append ht.opening fun x hx y hy => by
    cases h
    case inl h => simp [(h x hx).right]
    case inr h => simp [(h y hy).left]

section Strings

variable {s t u : String}

-- Whatever a text is put behind, they do not meet in a marker.
def StartsNeutral (s : String) : Prop :=
  ∀ c ∈ s.toList.head?, Neutral c

instance : DecidablePred StartsNeutral :=
  fun s => decidable_of_iff (s.toList.head?.all (Neutral ·)) <| by
    simp [StartsNeutral, Option.all_eq_true]

-- A fixed text that may stand between escaped ones.
def Joint (s : String) : Prop :=
  comment s = s ∧ s.toList.head?.any (Neutral ·) ∧ s.toList.getLast?.any (Neutral ·)

instance : DecidablePred Joint :=
  fun _ => inferInstanceAs (Decidable (_ ∧ _ ∧ _))

theorem Joint.startsNeutral (h : Joint s) : StartsNeutral (s ++ t) := by
  have ⟨c, hc, hn⟩ := Option.any_eq_true _ _ |>.mp h.2.1
  simp_all [StartsNeutral, String.toList_append, List.head?_append]

theorem Joint.last (h : Joint t) : ∀ c ∈ (s ++ t).toList.getLast?, Neutral c := by
  have ⟨c, hc, hn⟩ := Option.any_eq_true _ _ |>.mp h.2.2
  simp_all [String.toList_append, List.getLast?_append]

theorem Joint.unmarked (h : Joint s) : Unmarked s.toList := by
  rw [← h.1, toList_comment]
  exact unmarked_commentChars _

-- A joint keeps two texts from meeting in a marker.
theorem unmarked_append_joint_append (h : Joint t) :
    Unmarked (s ++ t ++ u).toList ↔ Unmarked s.toList ∧ Unmarked u.toList := by
  have hl : ∀ c ∈ (s.toList ++ t.toList).getLast?, Neutral c := by
    simpa [String.toList_append] using h.last (s := s)
  have hf : ∀ c ∈ t.toList.head?, Neutral c := by
    simpa [StartsNeutral] using h.startsNeutral (t := "")
  rw [String.toList_append, String.toList_append]
  constructor
  case mp =>
    intro hm
    rw [List.append_assoc] at hm
    refine ⟨hm.of_isInfix (List.prefix_append _ _).isInfix, hm.of_isInfix ?_⟩
    exact List.IsSuffix.isInfix ⟨s.toList ++ t.toList, by simp⟩
  case mpr =>
    intro hm
    exact (hm.left.append h.unmarked (.inr hf)).append hm.right (.inl hl)

theorem comment_append (h : (∀ x ∈ s.toList.getLast?, Neutral x) ∨ StartsNeutral t) :
    comment (s ++ t) = comment s ++ comment t := by
  simp [← String.toList_inj, commentChars_append_of_neutral h]

@[simp] theorem comment_empty : comment "" = "" :=
  rfl

theorem comment_eq_iff (ht : comment t = t) (hb : ' ' ∉ t.toList) : comment s = t ↔ s = t := by
  constructor
  case mp =>
    rintro rfl
    rw [toList_comment] at hb
    simp [← String.toList_inj, commentChars_eq_self hb]
  case mpr =>
    rintro rfl
    exact ht

theorem comment_append_joint_append (h : Joint t) :
    comment (s ++ t ++ u) = comment s ++ t ++ comment u := by
  have ht : StartsNeutral t := by simpa using h.startsNeutral (t := "")
  rw [comment_append (.inl h.last), comment_append (.inr ht), h.1]

theorem comment_joint_append (h : Joint s) : comment (s ++ t) = s ++ comment t := by
  simpa using comment_append_joint_append (s := "") (u := t) h

theorem comment_append_joint (h : Joint t) : comment (s ++ t) = comment s ++ t := by
  simpa using comment_append_joint_append (s := s) (u := "") h

theorem StartsNeutral.append (hs : StartsNeutral s) (ht : StartsNeutral t) :
    StartsNeutral (s ++ t) := by
  intro c hc
  rw [String.toList_append, List.head?_append] at hc
  cases Option.or_eq_some_iff.mp hc
  case inl h => exact hs c h
  case inr h => exact ht c h.right

theorem startsNeutral_join {texts : List String} (h : ∀ s ∈ texts, StartsNeutral s) :
    StartsNeutral (String.join texts) := by
  induction texts
  case nil => decide
  case cons s rest hi =>
    rw [String.join_cons]
    exact .append (h s List.mem_cons_self) <| hi fun t ht => h t (List.mem_cons_of_mem _ ht)

theorem comment_join {texts : List String} (h : ∀ s ∈ texts, StartsNeutral s) :
    comment (String.join texts) = String.join (texts.map comment) := by
  induction texts
  case nil => rfl
  case cons s rest hi =>
    have hr : ∀ t ∈ rest, StartsNeutral t := fun t ht => h t (List.mem_cons_of_mem _ ht)
    rw [String.join_cons, comment_append (.inr (startsNeutral_join hr)), hi hr, List.map_cons,
      String.join_cons]

end Strings
end ApiStubs.Escape
