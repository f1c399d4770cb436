import ApiStubs.Proofs.Xml.Document
import ApiStubs.Proofs.Xml.RoundTrip

/-!
How markup is scanned. The tags in it are scanned one by one. The texts between them come in pieces
that depend on what is next to what, so only the marks that set texts apart are followed.
-/

namespace ApiStubs.Xml

open Text (splitChars cutChars? dropWord?)
open Escape (contentChar contentChars htmlChar htmlChars)

variable {s s' t rest : List Char} {c : Char} {tokens more : List Token}

theorem cutChars?_append (h : c ∉ s) (rest : List Char) :
    cutChars? c (s ++ c :: rest) = some (s, rest) := by
  induction s
  case nil => simp [cutChars?]
  case cons d s hi =>
    obtain ⟨hd, hs⟩ := List.ne_and_not_mem_of_not_mem_cons h
    simp [cutChars?, hd.symm, hi hs]

theorem splitChars_append {first : List Char} {parts : List (List Char)} (h : c ∉ s)
    (ht : splitChars c t = first :: parts) : splitChars c (s ++ t) = (s ++ first) :: parts := by
  induction s
  case nil => exact ht
  case cons d s hi =>
    obtain ⟨hd, hs⟩ := List.ne_and_not_mem_of_not_mem_cons h
    simp [splitChars, hd.symm, hi hs]

-- What follows an `&`, up to the next one, with the reference resolved.
def expandPart? (part : List Char) : Option (List Char) := do
  let (c, after) ← expandOne? part
  return c :: after

theorem expand?_eq_some {first : List Char} {parts : List (List Char)}
    (hs : splitChars '&' s = first :: parts) :
    expand? s = some t ↔ ∃ resolved, parts.mapM expandPart? = some resolved ∧
      first ++ resolved.flatten = t := by
  have he : expand? s = (parts.mapM expandPart?).bind fun resolved =>
      some (first ++ resolved.flatten) := by
    unfold expand?
    rw [hs]
    rfl
  simp [he, Option.bind_eq_some_iff]

-- References are resolved from left to right.
theorem expand?_cons (hc : c ≠ '&') (h : expand? s = some t) :
    expand? (c :: s) = some (c :: t) := by
  have ⟨first, parts, hs⟩ := List.exists_cons_of_ne_nil (Text.splitChars_ne_nil '&' s)
  have ⟨resolved, hr, ht⟩ := (expand?_eq_some hs).mp h
  have hc : splitChars '&' (c :: s) = (c :: first) :: parts := by
    rw [splitChars, if_neg hc, hs]
  exact (expand?_eq_some hc).mpr ⟨resolved, hr, by rw [← ht, List.cons_append]⟩

theorem expand?_reference (inside : List Char) (hi : referenced? inside = some c)
    (hm : '&' ∉ inside ++ [';'] ∧ ';' ∉ inside) (h : expand? s = some t) :
    expand? ('&' :: (inside ++ ';' :: s)) = some (c :: t) := by
  have ⟨first, parts, hs⟩ := List.exists_cons_of_ne_nil (Text.splitChars_ne_nil '&' s)
  have ⟨resolved, hr, ht⟩ := (expand?_eq_some hs).mp h
  have hp : splitChars '&' ('&' :: (inside ++ ';' :: s)) =
      [] :: (inside ++ [';'] ++ first) :: parts := by
    rw [splitChars, if_pos rfl, List.append_cons, splitChars_append hm.left hs]
  have ho : expandPart? (inside ++ [';'] ++ first) = some (c :: first) := by
    simp [expandPart?, expandOne?, cutChars?_append hm.right, hi]
  refine (expand?_eq_some hp).mpr ⟨(c :: first) :: resolved, ?_, by simp [ht]⟩
  rw [List.mapM_cons, ho, hr]
  rfl

theorem expand?_htmlChars (s : List Char) : expand? (htmlChars s) = some s := by
  rw [Escape.htmlChars_eq_flatMap]
  induction s
  case nil => rfl
  case cons c s hi =>
    rw [List.flatMap_cons]
    by_cases h : c ∈ ['"', '&', '<', '>']
    case pos =>
      obtain rfl | rfl | rfl | rfl : c = '"' ∨ c = '&' ∨ c = '<' ∨ c = '>' := by simpa using h
      case inl         => exact expand?_reference "quot".toList rfl (by decide) hi
      case inr.inl     => exact expand?_reference "amp".toList rfl (by decide) hi
      case inr.inr.inl => exact expand?_reference "lt".toList rfl (by decide) hi
      case inr.inr.inr => exact expand?_reference "gt".toList rfl (by decide) hi
    case neg =>
      have ha : c ≠ '&' := by
        rintro rfl
        simp at h
      rw [Escape.htmlChar_of_plain h]
      exact expand?_cons ha hi

namespace Token

-- A text is scanned up to a place, with all that follows in view, so that parts can be composed.
inductive Scans : List Char → List Token → List Char → Prop
  | done {s : List Char} : Scans s [] s
  | step {s t rest : List Char} {tokens more : List Token} (next : next? s = .ok (tokens, t))
    (shorter : t.length < s.length) : Scans t more rest → Scans s (tokens ++ more) rest

namespace Scans

theorem trans (h : Scans s tokens t) (h' : Scans t more rest) : Scans s (tokens ++ more) rest := by
  induction h
  case done              => exact h'
  case step hn hl _ hi =>
    rw [List.append_assoc]
    exact .step hn hl (hi h')

theorem single (next : next? s = .ok (tokens, t)) (shorter : t.length < s.length) :
    Scans s tokens t := by
  have h := step next shorter .done
  rwa [List.append_nil] at h

-- Every piece takes a character, so the length of the text is enough.
theorem scanUpTo_eq (h : Scans s tokens rest) (hr : rest = []) (fuel : Nat)
    (hf : s.length ≤ fuel) : scanUpTo fuel s = .ok tokens := by
  induction h generalizing fuel
  case done =>
    rw [hr, scanUpTo]
  case step s t _ _ _ hn hl _ hi =>
    cases s
    case nil => cases hl
    case cons c s =>
      cases fuel
      case zero => cases hf
      case succ fuel =>
        have hl : t.length ≤ fuel := by
          simp only [List.length_cons] at hl hf
          omega
        simp only [scanUpTo, hn, hi hr fuel hl, bind, Except.bind]
        rfl

theorem scan_eq (h : Scans s tokens []) : scan s = .ok tokens :=
  h.scanUpTo_eq rfl s.length le_rfl

end Scans

-- Whether a token is something else than text.
def isMark : Token → Bool
  | .text _ | .data _ => false
  | _ => true

-- Whether text ends at a place.
def EndsText (s : List Char) : Prop :=
  s = [] ∨ ∃ t, s = '<' :: t

-- No section ends in the text at a place.
def Safe (s : List Char) : Prop :=
  '>' ∉ s.takeWhile (· != '<')

theorem Safe.append (h : Safe t) (hs : '>' ∉ s) : Safe (s ++ t) := by
  induction s
  case nil => exact h
  case cons c s hi =>
    have ⟨hc, hs⟩ := List.ne_and_not_mem_of_not_mem_cons hs
    have hi := hi hs
    unfold Safe at hi ⊢
    by_cases hl : c = '<' <;> simp [hl, hc, hi]

theorem takeText_cons (hc : c ∉ ['&', '<', '>']) (hs : Safe s) :
    takeText (c :: s) = (c :: (takeText s).1, (takeText s).2) := by
  have hd : dropWord? "]]>".toList (c :: s) = none := by
    rw [Option.eq_none_iff_forall_ne_some]
    intro t hd
    have ht : s = ']' :: '>' :: t := (List.cons.inj (Text.dropWord?_eq_some.mp hd)).right
    simp [Safe, ht] at hs
  have ⟨ha, hl, _⟩ : c ≠ '&' ∧ c ≠ '<' ∧ c ≠ '>' := by simpa using hc
  have hn : ¬(c = '<' ∨ c = '&' ∨ (dropWord? "]]>".toList (c :: s)).isSome) := by
    rw [hd]
    simp [ha, hl]
  rw [takeText, if_neg hn]

theorem takeText_append (s : List Char) : (takeText s).1 ++ (takeText s).2 = s := by
  induction s
  case nil => rfl
  case cons c s hi =>
    rw [takeText]
    split
    case isTrue  => rfl
    case isFalse => simp [hi]

theorem next?_eq_text (h : (takeText s).1 ≠ []) :
    next? s = .ok ([text (String.ofList (takeText s).1)], (takeText s).2) := by
  unfold next?
  split
  case h_1 => simp [takeText] at h
  case h_2 => simp [takeText] at h
  case h_3 =>
    unfold text?
    split
    case h_1 he => simp [he] at h
    case h_2 he => rw [he]

-- What is scanned up to a place, texts left out.
structure Reads (marks : List Token) (s rest : List Char) : Prop where
  scans : ∃ tokens, Scans s tokens rest ∧ tokens.filter (·.isMark) = marks
  safe : Safe s

namespace Reads

variable {marks : List Token}

theorem done (hr : EndsText rest) : Reads [] rest rest := by
  refine ⟨⟨[], .done, rfl⟩, ?_⟩
  obtain rfl | ⟨_, rfl⟩ := hr <;> simp [Safe]

-- A character in front of a text is part of its first piece, or a piece of its own.
theorem plainChar (h : Reads marks s rest) (hr : EndsText rest) (hc : c ∉ ['&', '<', '>']) :
    Reads marks (c :: s) rest := by
  have ⟨tokens, hs, hm⟩ := h.scans
  have ht := takeText_cons hc h.safe
  have hn : next? (c :: s) =
      .ok ([text (String.ofList (c :: (takeText s).1))], (takeText s).2) := by
    have hn := @next?_eq_text (c :: s) (by simp [ht])
    rwa [ht] at hn
  have hl : (takeText s).2.length < (c :: s).length := by
    have ha := congrArg List.length (takeText_append s)
    simp only [List.length_append] at ha
    simp only [List.length_cons]
    omega
  refine ⟨?_, h.safe.append (s := [c]) (by grind)⟩
  -- Without a text at the start the character is scanned alone. Otherwise the piece that was
  -- scanned first is the one that becomes longer.
  by_cases hf : (takeText s).1 = []
  case pos =>
    have ha : (takeText s).2 = s := by simpa [hf] using takeText_append s
    rw [ha] at hn hl
    exact ⟨_, .step hn hl hs, by simpa [isMark] using hm⟩
  case neg =>
    cases hs
    case done =>
      obtain rfl | ⟨t, rfl⟩ := hr <;> simp [takeText] at hf
    case step ts t more hn' hl' hs =>
      cases (next?_eq_text hf).symm.trans hn'
      exact ⟨_, .step hn hl hs, by simpa [isMark] using hm⟩

theorem cons (next : next? s = .ok (tokens, t)) (shorter : t.length < s.length) (hs : Safe s)
    (h : Reads marks t rest) : Reads (tokens.filter (·.isMark) ++ marks) s rest := by
  have ⟨more, ht, hm⟩ := h.scans
  exact ⟨⟨_, .step next shorter ht, by rw [List.filter_append, hm]⟩, hs⟩

theorem reference (inside : List Char) (hi : referenced? inside = some c)
    (hn : ';' ∉ inside ∧ '>' ∉ '&' :: inside ++ [';']) (h : Reads marks s rest) :
    Reads marks ('&' :: (inside ++ ';' :: s)) rest := by
  have hx : next? ('&' :: (inside ++ ';' :: s)) = .ok ([data (String.singleton c)], s) := by
    simp [next?, reference?, expandOne?, cutChars?_append hn.left, hi]
  have hs : Safe ('&' :: (inside ++ ';' :: s)) := by simpa using h.safe.append hn.right
  exact cons hx (by simp; omega) hs h

theorem contentChars (h : Reads marks s rest) (hr : EndsText rest) (text : List Char) :
    Reads marks (Escape.contentChars text ++ s) rest := by
  rw [Escape.contentChars_eq_flatMap]
  induction text
  case nil => exact h
  case cons c text hi =>
    rw [List.flatMap_cons, List.append_assoc]
    by_cases hc : c ∈ ['&', '<', '>']
    case pos =>
      obtain rfl | rfl | rfl : c = '&' ∨ c = '<' ∨ c = '>' := by simpa using hc
      case inl     => exact reference "amp".toList rfl (by decide) hi
      case inr.inl => exact reference "lt".toList rfl (by decide) hi
      case inr.inr => exact reference "gt".toList rfl (by decide) hi
    case neg =>
      rw [Escape.contentChar_of_plain hc]
      exact hi.plainChar hr hc

end Reads
end Token

theorem IsPlainName.skipSpaces_append {name : List Char} (h : IsPlainName name) (rest : List Char) :
    skipSpaces (name ++ rest) = name ++ rest := by
  obtain ⟨first, part, rfl, hf, _⟩ := h.exists_cons
  have hs : ¬isSpace first := by
    intro hs
    simp only [isSpace, Bool.or_eq_true, beq_iff_eq] at hs
    obtain ((rfl | rfl) | rfl) | rfl := hs <;> cases hf
  simp [skipSpaces, hs]

-- An attribute as it is written in markup, without a label.
def Attribute.written (a : Attribute) : WrittenName × String :=
  (⟨none, a.name.localName⟩, a.value)

-- The start and the end of an element as they are written in markup.
def Tag.startToken (tag : Tag) : Token :=
  .startTag ⟨none, tag.name.localName⟩ ((sortAttributes tag.attributes).map (·.written))

def Tag.endToken (tag : Tag) : Token :=
  .endTag ⟨none, tag.name.localName⟩

namespace Token

variable {a : Attribute} {tag : Tag}

theorem attribute?_attributeMarkup (h : IsPlainName a.name.localName.toList) (rest : List Char) :
    attribute? (attributeMarkup a ++ rest) = some (.ok (a.written, rest)) := by
  have hv : quoted? ('"' :: (htmlChars a.value.toList ++ '"' :: rest)) =
      some (htmlChars a.value.toList, rest) :=
    cutChars?_append (Escape.not_mem_htmlChars (by decide) _) rest
  have hl : '<' ∉ htmlChars a.value.toList := Escape.not_mem_htmlChars (by decide) _
  have he : equalsSign? ('=' :: '"' :: (htmlChars a.value.toList ++ '"' :: rest)) =
      some ('"' :: (htmlChars a.value.toList ++ '"' :: rest)) := rfl
  have hs : someSpaces? (attributeMarkup a ++ rest) = some (a.name.localName.toList ++
      '=' :: '"' :: (htmlChars a.value.toList ++ '"' :: rest)) := by
    rw [← h.skipSpaces_append]
    simp [attributeMarkup, someSpaces?, isSpace]
  have hn := h.takeWrittenName_append (c := '=') (by decide)
    ('"' :: (htmlChars a.value.toList ++ '"' :: rest))
  simp only [attribute?, hs, hn, he, hv, hl, expand?_htmlChars, Option.bind_eq_bind,
    Option.bind_some, if_false, String.ofList_toList, Attribute.written]

theorem attributes_flatMap {as : List Attribute}
    (h : ∀ a ∈ as, IsPlainName a.name.localName.toList) (hc : c = '/' ∨ c = '>')
    (rest : List Char) (fuel : Nat) (hf : as.length ≤ fuel) :
    attributes fuel (as.flatMap attributeMarkup ++ c :: rest) =
      .ok (as.map (·.written), c :: rest) := by
  induction as generalizing fuel
  case nil =>
    cases fuel
    case zero => rfl
    case succ fuel =>
      have ha : attribute? (c :: rest) = none := by obtain rfl | rfl := hc <;> rfl
      simp [attributes, ha]
  case cons a as hi =>
    cases fuel
    case zero => cases hf
    case succ fuel =>
      have ha := attribute?_attributeMarkup (h a List.mem_cons_self)
        (as.flatMap attributeMarkup ++ c :: rest)
      have hi := hi (fun b hb => h b (List.mem_cons_of_mem _ hb)) fuel (Nat.le_of_succ_le_succ hf)
      simp only [List.flatMap_cons, List.append_assoc, attributes, ha, hi]
      rfl

theorem markup?_name {name : List Char} (h : IsPlainName name) (rest : List Char) :
    markup? (name ++ rest) = startTag? (name ++ rest) := by
  obtain ⟨first, part, rfl, hf, _⟩ := h.exists_cons
  unfold markup?
  split
  case h_4 => rfl
  all_goals
    rename_i he
    rw [(List.cons.inj he).left] at hf
    cases hf

theorem length_le_flatMap_attributeMarkup (as : List Attribute) :
    as.length ≤ (as.flatMap attributeMarkup).length := by
  induction as
  case nil => exact le_rfl
  case cons a as hi =>
    simp only [List.flatMap_cons, List.length_append, List.length_cons, attributeMarkup]
    omega

theorem next?_startMarkup (h : tag.Plain) (hc : c = '/' ∨ c = '>') (rest : List Char) :
    next? (Decoder.startMarkup tag ++ c :: rest) =
      match c :: rest with
      | '>' :: s => .ok ([tag.startToken], s)
      | '/' :: '>' :: s => .ok ([tag.startToken, emptyEnd], s)
      | _ => .error .startTag := by
  let name := tag.name.localName.toList
  let as := sortAttributes tag.attributes
  have ⟨d, rest', hd, hd'⟩ := Decoder.exists_flatMap_attributeMarkup as hc rest
  have hs : next? (Decoder.startMarkup tag ++ c :: rest) =
      startTag? (name ++ (as.flatMap attributeMarkup ++ c :: rest)) := by
    rw [← markup?_name h.name]
    simp [Decoder.startMarkup, next?, as]
  have hn : takeWrittenName (name ++ (as.flatMap attributeMarkup ++ c :: rest)) =
      some (⟨none, tag.name.localName⟩, as.flatMap attributeMarkup ++ c :: rest) := by
    rw [hd, h.name.takeWrittenName_append (by obtain rfl | rfl | rfl := hd' <;> decide),
      String.ofList_toList]
  have ha : attributes (as.flatMap attributeMarkup ++ c :: rest).length
      (as.flatMap attributeMarkup ++ c :: rest) = .ok (as.map (·.written), c :: rest) := by
    have hp a (ha : a ∈ as) := h.attributes a (List.mem_mergeSort.mp ha)
    have hl := length_le_flatMap_attributeMarkup as
    exact attributes_flatMap hp hc rest _ (by rw [List.length_append]; omega)
  have hsp : skipSpaces (c :: rest) = c :: rest := by obtain rfl | rfl := hc <;> rfl
  rw [hs]
  simp only [startTag?, hn, ha, bind, Except.bind, hsp]
  rfl

theorem next?_endMarkup (h : tag.Plain) (rest : List Char) :
    next? ('<' :: '/' :: (tag.name.localName.toList ++ '>' :: rest)) =
      .ok ([tag.endToken], rest) := by
  have hn := h.name.takeWrittenName_append (c := '>') (by decide) rest
  simp only [next?, markup?, endTag?, hn, String.ofList_toList]
  rfl

end Token

mutual

-- The tags in the markup of a node, as they are scanned.
def Node.marks : Node → List Token
  | .element tag children =>
    if children.isEmpty then [tag.startToken, .emptyEnd]
    else tag.startToken :: (Node.marksOfList children ++ [tag.endToken])
  | .text _ | .comment _ | .instruction .. => []

def Node.marksOfList : List Node → List Token
  | [] => []
  | n :: ns => n.marks ++ Node.marksOfList ns

end

namespace Token.Reads

variable {marks : List Token} {tag : Tag} {children : List Node}

theorem startTag (ht : tag.Plain) (h : Reads marks s rest) :
    Reads (tag.startToken :: marks) (Decoder.startMarkup tag ++ '>' :: s) rest := by
  refine cons (next?_startMarkup ht (.inr rfl) s) ?_ ?_ h
  · simp only [List.length_append, List.length_cons]
    omega
  · simp [Safe, Decoder.startMarkup]

theorem emptyTag (ht : tag.Plain) (h : Reads marks s rest) :
    Reads (tag.startToken :: .emptyEnd :: marks) (Decoder.startMarkup tag ++ '/' :: '>' :: s)
      rest := by
  refine cons (next?_startMarkup ht (.inl rfl) ('>' :: s)) ?_ ?_ h
  · simp only [List.length_append, List.length_cons]
    omega
  · simp [Safe, Decoder.startMarkup]

theorem endTag (ht : tag.Plain) (h : Reads marks s rest) :
    Reads (tag.endToken :: marks) ('<' :: '/' :: (tag.name.localName.toList ++ '>' :: s)) rest := by
  refine cons (next?_endMarkup ht s) ?_ ?_ h
  · simp only [List.length_append, List.length_cons]
    omega
  · simp [Safe]

theorem element (ht : tag.Plain)
    (hc : ∀ {marks s}, Reads marks s rest →
      Reads (Node.marksOfList children ++ marks) (Node.markupOfList children ++ s) rest)
    (h : Reads marks s rest) :
    Reads ((Node.element tag children).marks ++ marks) ((Node.element tag children).markup ++ s)
      rest := by
  cases children
  case nil =>
    rw [Decoder.markup_element_nil]
    exact h.emptyTag ht
  case cons n ns =>
    have hk : (Node.element tag (n :: ns)).marks ++ marks =
        tag.startToken :: (Node.marksOfList (n :: ns) ++ tag.endToken :: marks) := by
      simp [Node.marks]
    rw [Decoder.markup_element_cons, hk]
    exact (hc (h.endTag ht)).startTag ht

end Token.Reads

mutual

-- The induction is on the tree, at any text that follows. Markup is scanned tag by tag.
theorem Node.reads_markup {rest : List Char} (hr : Token.EndsText rest) {marks : List Token}
    {s : List Char} (h : Token.Reads marks s rest) :
    (n : Node) → (∀ tag ∈ n.tags, tag.Plain) → Token.Reads (n.marks ++ marks) (n.markup ++ s) rest
  | .element tag children, hp => by
    have ⟨ht, hc⟩ := List.forall_mem_cons.mp hp
    exact .element ht (fun h => Node.reads_markupOfList hr h children hc) h
  | .text content, _ => h.contentChars hr content.toList
  | .comment _, _ | .instruction .., _ => h

theorem Node.reads_markupOfList {rest : List Char} (hr : Token.EndsText rest) {marks : List Token}
    {s : List Char} (h : Token.Reads marks s rest) :
    (ns : List Node) → (∀ tag ∈ Node.tagsOfList ns, tag.Plain) →
      Token.Reads (Node.marksOfList ns ++ marks) (Node.markupOfList ns ++ s) rest
  | [], _ => h
  | n :: ns, hp => by
    have ⟨hn, hns⟩ := List.forall_mem_append.mp hp
    simp only [Node.marksOfList, Node.markupOfList, List.append_assoc]
    exact Node.reads_markup hr (Node.reads_markupOfList hr h ns hns) n hn

end

end ApiStubs.Xml
