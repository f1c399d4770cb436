import ApiStubs.Proofs.Escape.Resolve
import ApiStubs.Proofs.Xml.RoundTrip
import Mathlib.Data.List.Basic

/-!
Markup and text of an element agree: markup without its tags and with its references taken out is
the text. No value of an attribute ends a tag early, no text opens one, and no text is taken for a
reference.
-/

namespace ApiStubs.Xml

open Decoder (startMarkup)
open Escape (contentChars contentReferences resolve)

variable {inside s : List Char} {tag : Tag} {children : List Node}

-- A text without the stretches from a `<` to the next `>`.
def untagged (s : List Char) : List Char :=
  match s with
  | [] => []
  | c :: s =>
    if c = '<' ∧ '>' ∈ s then untagged (s.drop (s.idxOf '>' + 1)) else c :: untagged s
termination_by s.length

theorem untagged_tag (h : '>' ∉ inside) (rest : List Char) :
    untagged ('<' :: (inside ++ '>' :: rest)) = untagged rest := by
  have hd : (inside ++ '>' :: rest).drop ((inside ++ '>' :: rest).idxOf '>' + 1) = rest := by
    rw [List.idxOf_append_of_notMem h, List.idxOf_cons_self]
    simp
  rw [untagged, if_pos ⟨rfl, by simp⟩, hd]

theorem untagged_append (h : '<' ∉ s) (rest : List Char) :
    untagged (s ++ rest) = s ++ untagged rest := by
  induction s
  case nil => rfl
  case cons c s hi =>
    obtain ⟨hc, hs⟩ := List.ne_and_not_mem_of_not_mem_cons h
    rw [List.cons_append, untagged, if_neg fun hl => hc hl.left.symm, hi hs, List.cons_append]

theorem IsName.gt_not_mem {name : List Char} (h : IsName name) : '>' ∉ name :=
  fun hm => h.ne_of_mem hm (by decide) rfl

theorem gt_not_mem_attributeMarkup {a : Attribute} (h : IsName a.name.localName.toList) :
    '>' ∉ attributeMarkup a := by
  have hv : '>' ∉ Escape.htmlChars a.value.toList := Escape.not_mem_htmlChars (by decide) _
  simp [attributeMarkup, h.gt_not_mem, hv]

-- A start tag is deleted up to its end, which is the first `>` in it.
theorem untagged_startMarkup (h : tag.Named) {slash : List Char} (hs : '>' ∉ slash)
    (rest : List Char) : untagged (startMarkup tag ++ (slash ++ '>' :: rest)) = untagged rest := by
  have ha : '>' ∉ (sortAttributes tag.attributes).flatMap attributeMarkup := by
    rw [List.mem_flatMap]
    rintro ⟨a, ha, hm⟩
    exact gt_not_mem_attributeMarkup (h.attributes a (List.mem_mergeSort.mp ha)) hm
  have hi : '>' ∉ tag.name.localName.toList ++
      (sortAttributes tag.attributes).flatMap attributeMarkup ++ slash := by
    simp only [List.mem_append, not_or]
    exact ⟨⟨h.name.gt_not_mem, ha⟩, hs⟩
  simpa [startMarkup] using untagged_tag hi rest

theorem untagged_endMarkup (h : tag.Named) (rest : List Char) :
    untagged ('<' :: '/' :: (tag.name.localName.toList ++ '>' :: rest)) = untagged rest := by
  have hi : '>' ∉ '/' :: tag.name.localName.toList := by simp [h.name.gt_not_mem]
  exact untagged_tag hi rest

theorem untagged_element (h : tag.Named)
    (hc : ∀ rest, untagged (Node.markupOfList children ++ rest) =
      contentChars (Node.textOfList children) ++ untagged rest) (rest : List Char) :
    untagged ((Node.element tag children).markup ++ rest) =
      contentChars (Node.textOfList children) ++ untagged rest := by
  cases children
  case nil =>
    rw [Decoder.markup_element_nil]
    exact untagged_startMarkup h (by decide : '>' ∉ ['/']) rest
  case cons n ns =>
    rw [Decoder.markup_element_cons, ← untagged_endMarkup h rest, ← hc]
    exact untagged_startMarkup h List.not_mem_nil _

mutual

-- The induction is on the tree, at any text that follows. What is left of a node is its text, with
-- references.
theorem untagged_markup (rest : List Char) : ∀ n : Node, (∀ tag ∈ n.tags, tag.Named) →
    untagged (n.markup ++ rest) = contentChars n.textChars ++ untagged rest
  | .element tag children, h => by
    have ⟨ht, hc⟩ := List.forall_mem_cons.mp h
    exact untagged_element ht (fun rest => untagged_markupOfList rest children hc) rest
  | .text content, _ => untagged_append (Escape.lt_not_mem_contentChars content.toList) rest
  | .comment _, _ | .instruction .., _ => rfl

theorem untagged_markupOfList (rest : List Char) :
    ∀ ns : List Node, (∀ tag ∈ Node.tagsOfList ns, tag.Named) →
      untagged (Node.markupOfList ns ++ rest) =
        contentChars (Node.textOfList ns) ++ untagged rest
  | [], _ => rfl
  | n :: ns, h => by
    have ⟨hn, hns⟩ := List.forall_mem_append.mp h
    rw [Node.markupOfList, List.append_assoc, untagged_markup _ n hn,
      untagged_markupOfList rest ns hns, Node.textOfList, Escape.contentChars_append,
      List.append_assoc]

end

-- Markup without its tags and with its references taken out is the text, whatever texts and values
-- stand in it.
theorem resolve_untagged_innerMarkup {e : Element} (h : e.Named) :
    String.ofList (resolve contentReferences (untagged e.innerMarkup.toList)) = e.text := by
  have hu : untagged (Node.markupOfList e.children) =
      contentChars (Node.textOfList e.children) := by
    simpa [untagged] using untagged_markupOfList [] e.children h
  rw [Element.innerMarkup, String.toList_ofList, hu, Escape.resolve_contentChars, Element.text]

-- Texts that look like tags and references, and a value that looks like the end of a tag.
def deceptiveElement : Element where
  tag.name := { localName := "desc" }
  children := [.text "1 < 2 &lt; <b>", .instruction "p" "<i>",
    .element
      { name := { space := some "urn:e", label := some "e", localName := "em" }
        attributes := [⟨{ localName := "title" }, "\"/>&amp;lt;"⟩] }
      [.comment "</em>", .text "&amp;", .element { name := { localName := "br" } } []],
    .text "lt;"]

theorem resolve_untagged_deceptiveElement :
    deceptiveElement.Named ∧
      deceptiveElement.innerMarkup = "1 &lt; 2 &amp;lt; &lt;b&gt;" ++
        "<em title=\"&quot;/&gt;&amp;amp;lt;\">&amp;amp;<br/></em>lt;" ∧
      String.ofList (resolve contentReferences (untagged deceptiveElement.innerMarkup.toList)) =
        "1 < 2 &lt; <b>&amp;lt;" := by
  have h : deceptiveElement.Named := by decide
  have ht : deceptiveElement.text = "1 < 2 &lt; <b>&amp;lt;" := by decide
  exact ⟨h, by cbv, ht ▸ resolve_untagged_innerMarkup h⟩

end ApiStubs.Xml
