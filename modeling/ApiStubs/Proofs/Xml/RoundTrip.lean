import Mathlib.Data.List.Permutation
import ApiStubs.Proofs.Xml.Decoder

/-!
Markup can be decoded: the markup of an element's content says exactly what the content does.
-/

namespace ApiStubs.Xml
namespace Decoder

-- The content of the innermost open element, read up to a place between tags.
structure Level where
  before : List Content := []
  text : List Char := []

namespace Level

def state (l : Level) (frames : List Frame) : State :=
  ⟨frames, l.before, .content ⟨l.text, none⟩⟩

def content (l : Level) : List Content :=
  l.before ++ ofText l.text

def add (l : Level) : Content → Level
  | .text s => { l with text := l.text ++ s.toList }
  | .element name attributes children => ⟨l.content ++ [.element name attributes children], []⟩

-- Reading piece by piece leads to the normal form.
theorem content_foldl_add (l : Level) (cs : List Content) :
    (cs.foldl add l).content =
      l.before ++ Content.consText (String.ofList l.text) (Content.merge cs) := by
  induction cs generalizing l
  case nil => rfl
  case cons c cs hi =>
    rw [List.foldl_cons, hi]
    cases c
    case text s =>
      rw [Content.merge, Content.consText_consText, add, String.ofList_append, String.ofList_toList]
    case element name attributes children =>
      rw [Content.merge, add, String.ofList_nil, Content.consText_empty,
        Content.consText_cons_element, content, List.append_assoc, List.append_assoc]
      rfl

theorem content_foldl_add_empty (cs : List Content) :
    (cs.foldl add {}).content = Content.merge cs := by
  rw [content_foldl_add, String.ofList_nil, Content.consText_empty, List.nil_append]

end Level

variable {frames : List Frame} {before : List Content}

theorem run_attributeName {tag : StartTag} {name : List Char} (h : IsName name) :
    run ⟨frames, before, .attributeName tag []⟩ name =
      some ⟨frames, before, .attributeName tag name⟩ := by
  refine run_collect (.attributeName tag) (fun c hc read => ?_) []
  have he : c ≠ '=' := h.ne_of_mem hc (by decide)
  simp [State.step, he]

theorem run_attribute {tag : StartTag} {a : Attribute} (h : IsName a.name.localName.toList) :
    run ⟨frames, before, .startTag tag⟩ (attributeMarkup a) =
      some ⟨frames, before, .startTag (tag.add a.name.localName.toList a.value.toList)⟩ := by
  have hs : State.step ⟨frames, before, .startTag tag⟩ ' ' =
    some ⟨frames, before, .attributeName tag []⟩ := rfl
  have he : State.step ⟨frames, before, .attributeName tag a.name.localName.toList⟩ '=' =
    some ⟨frames, before, .attribute tag a.name.localName.toList⟩ := by simp [State.step, h]
  have hq : State.step ⟨frames, before, .attribute tag a.name.localName.toList⟩ '"' =
    some ⟨frames, before, .value tag a.name.localName.toList {}⟩ := rfl
  simp only [attributeMarkup, List.cons_append, List.append_assoc]
  rw [run_cons hs, run_append (run_attributeName h), run_cons he, run_cons hq,
    run_append (run_htmlChars _ _), run_cons rfl, run_nil]

theorem run_attributes {attributes : List Attribute}
    (h : ∀ a ∈ attributes, IsName a.name.localName.toList) (name : String)
    (read : List (String × String)) :
    run ⟨frames, before, .startTag ⟨name, read⟩⟩ (attributes.flatMap attributeMarkup) =
      some ⟨frames, before, .startTag
        ⟨name, read ++ attributes.map fun a => (a.name.localName, a.value)⟩⟩ := by
  induction attributes generalizing read
  case nil => simp
  case cons a attributes hi =>
    rw [List.flatMap_cons, run_append (run_attribute <| h a List.mem_cons_self), StartTag.add,
      hi fun b hb => h b <| List.mem_cons_of_mem a hb]
    simp

theorem run_tagName {name : List Char} (h : IsName name) :
    run ⟨frames, before, .tag⟩ name = some ⟨frames, before, .startName name⟩ := by
  cases name
  case nil => exact absurd rfl h.ne_nil
  case cons first name =>
    have hf : first ≠ '/' := h.ne_of_mem List.mem_cons_self (by decide)
    have hs : State.step ⟨frames, before, .tag⟩ first =
      some ⟨frames, before, .startName [first]⟩ := by simp [State.step, hf]
    rw [run_cons hs]
    refine run_collect .startName (fun c hc read => ?_) [first]
    have hm : c ∈ first :: name := List.mem_cons_of_mem first hc
    have hs : c ≠ ' ' := h.ne_of_mem hm (by decide)
    have hl : c ≠ '/' := h.ne_of_mem hm (by decide)
    have hg : c ≠ '>' := h.ne_of_mem hm (by decide)
    simp [State.step, hs, hl, hg]

-- The end of a name and the end of an attribute are followed by the same.
theorem run_startName {name : List Char} {c : Char} (h : IsName name)
    (hc : c = ' ' ∨ c = '/' ∨ c = '>') (rest : List Char) :
    run ⟨frames, before, .startName name⟩ (c :: rest) =
      run ⟨frames, before, .startTag ⟨String.ofList name, []⟩⟩ (c :: rest) := by
  simp [run, State.step, State.stepTag, h, hc]

theorem exists_flatMap_attributeMarkup (attributes : List Attribute) {c : Char}
    (hc : c = '/' ∨ c = '>') (rest : List Char) :
    ∃ d rest', attributes.flatMap attributeMarkup ++ c :: rest = d :: rest' ∧
      (d = ' ' ∨ d = '/' ∨ d = '>') := by
  cases attributes
  case nil => exact ⟨c, rest, rfl, .inr hc⟩
  case cons a attributes => exact ⟨' ', _, rfl, .inl rfl⟩

-- Everything of a start tag but its end.
def startMarkup (tag : Tag) : List Char :=
  '<' :: tag.name.localName.toList ++ (sortAttributes tag.attributes).flatMap attributeMarkup

theorem markup_element_nil (tag : Tag) (rest : List Char) :
    (Node.element tag []).markup ++ rest = startMarkup tag ++ '/' :: '>' :: rest := by
  simp [Node.markup, startMarkup]

theorem markup_element_cons (tag : Tag) (n : Node) (ns : List Node) (rest : List Char) :
    (Node.element tag (n :: ns)).markup ++ rest =
      startMarkup tag ++ '>' :: (Node.markupOfList (n :: ns) ++
        '<' :: '/' :: (tag.name.localName.toList ++ '>' :: rest)) := by
  simp [Node.markup, startMarkup]

def startTag (tag : Tag) : StartTag where
  name := tag.name.localName
  attributes := tag.sortedAttributes

variable {l : Level} {tag : Tag} {children : List Node}

theorem step_lt : State.step (l.state frames) '<' = some ⟨frames, l.content, .tag⟩ := by
  simp [State.step, Level.state, Level.content]

theorem run_startMarkup {c : Char} (h : tag.Named) (hc : c = '/' ∨ c = '>') (rest : List Char) :
    run (l.state frames) (startMarkup tag ++ c :: rest) =
      run ⟨frames, l.content, .startTag (startTag tag)⟩ (c :: rest) := by
  have ha : ∀ a ∈ sortAttributes tag.attributes, IsName a.name.localName.toList :=
    fun a ha => h.attributes a <| List.mem_mergeSort.mp ha
  have ⟨d, rest', hd, hd'⟩ :=
    exists_flatMap_attributeMarkup (sortAttributes tag.attributes) hc rest
  calc
    _ = run ⟨frames, l.content, .startName tag.name.localName.toList⟩
          ((sortAttributes tag.attributes).flatMap attributeMarkup ++ c :: rest) := by
      simp only [startMarkup, List.cons_append, List.append_assoc]
      rw [run_cons step_lt, run_append (run_tagName h.name)]
    _ = run ⟨frames, l.content, .startTag ⟨tag.name.localName, []⟩⟩
          ((sortAttributes tag.attributes).flatMap attributeMarkup ++ c :: rest) := by
      rw [hd, run_startName h.name hd', String.ofList_toList]
    _ = run ⟨frames, l.content, .startTag (startTag tag)⟩ (c :: rest) := by
      rw [run_append (run_attributes ha _ []), List.nil_append, sortAttributes_map, startTag]

theorem run_endTag (h : tag.Named) :
    run (l.state (⟨startTag tag, before⟩ :: frames))
        ('<' :: '/' :: (tag.name.localName.toList ++ ['>'])) =
      some (Level.state ⟨before ++ [(startTag tag).element l.content], []⟩ frames) := by
  have hs : State.step ⟨⟨startTag tag, before⟩ :: frames, l.content, .tag⟩ '/' =
    some ⟨⟨startTag tag, before⟩ :: frames, l.content, .endName []⟩ := rfl
  have hn : run ⟨⟨startTag tag, before⟩ :: frames, l.content, .endName []⟩
        tag.name.localName.toList =
      some ⟨⟨startTag tag, before⟩ :: frames, l.content, .endName tag.name.localName.toList⟩ := by
    refine run_collect .endName (fun c hc read => ?_) []
    have hg : c ≠ '>' := h.name.ne_of_mem hc (by decide)
    simp [State.step, hg]
  have he : State.step
        ⟨⟨startTag tag, before⟩ :: frames, l.content, .endName tag.name.localName.toList⟩ '>' =
      some (Level.state ⟨before ++ [(startTag tag).element l.content], []⟩ frames) := by
    simp [State.step, State.close, startTag, Level.state]
  rw [run_cons step_lt, run_cons hs, run_append hn, run_cons he, run_nil]

-- An element is read if its children are. Without children it is written as an empty tag.
theorem run_element (h : tag.Named)
    (hc : ∀ l frames, run (Level.state l frames) (Node.markupOfList children) =
      some (((Node.contentOfList children).foldl Level.add l).state frames))
    (l : Level) (frames : List Frame) :
    run (l.state frames) (Node.element tag children).markup =
      some ((Node.element tag children).content.foldl Level.add l |>.state frames) := by
  cases children
  case nil =>
    have hm : (Node.element tag []).markup = startMarkup tag ++ ['/', '>'] := rfl
    rw [hm, run_startMarkup h (.inl rfl), run_cons rfl, run_cons rfl, run_nil]
    rfl
  case cons n ns =>
    have hm : (Node.element tag (n :: ns)).markup = startMarkup tag ++ '>' ::
        (Node.markupOfList (n :: ns) ++ '<' :: '/' :: (tag.name.localName.toList ++ ['>'])) := by
      rw [← markup_element_cons, List.append_nil]
    have ho : State.step ⟨frames, l.content, .startTag (startTag tag)⟩ '>' =
      some (Level.state {} (⟨startTag tag, l.content⟩ :: frames)) := rfl
    rw [hm, run_startMarkup h (.inr rfl), run_cons ho, run_append (hc _ _), run_endTag h,
      Level.content_foldl_add_empty]
    rfl

mutual

-- The induction is on the tree. Whatever has been read before a node, its content is read next.
theorem run_markup (l : Level) (frames : List Frame) : ∀ n : Node, (∀ tag ∈ n.tags, tag.Named) →
    run (l.state frames) n.markup = some (n.content.foldl Level.add l |>.state frames)
  | .element tag children, h => by
    have ⟨ht, hc⟩ := List.forall_mem_cons.mp h
    exact run_element ht (fun l frames => run_markupOfList l frames children hc) l frames
  | .text s, _ => run_contentChars l.text s.toList
  | .comment _, _ | .instruction .., _ => rfl

theorem run_markupOfList (l : Level) (frames : List Frame) :
    ∀ ns : List Node, (∀ tag ∈ Node.tagsOfList ns, tag.Named) →
      run (l.state frames) (Node.markupOfList ns) =
        some ((Node.contentOfList ns).foldl Level.add l |>.state frames)
  | [], _ => rfl
  | n :: ns, h => by
    have ⟨hn, hns⟩ := List.forall_mem_append.mp h
    rw [Node.markupOfList, run_append (run_markup l frames n hn),
      run_markupOfList _ frames ns hns, Node.contentOfList, List.foldl_append]

end

end Decoder

theorem decode_eq_content {e : Element} (h : e.Named) : decode e.innerMarkup = some e.content := by
  have hr : Decoder.run {} (Node.markupOfList e.children) =
      some ((Node.contentOfList e.children).foldl Decoder.Level.add {} |>.state []) :=
    Decoder.run_markupOfList {} [] e.children h
  rw [decode, Element.innerMarkup, String.toList_ofList, hr, Option.bind_some, Element.content,
    ← Decoder.Level.content_foldl_add_empty]
  rfl

-- Markup can be read back, whatever texts and values stand in it. So two elements with the same
-- markup have the same content.
theorem decode_innerMarkup :
    (∀ e : Element, e.Named → decode e.innerMarkup = some e.content) ∧
    ∀ e e' : Element, e.Named → e'.Named → e.innerMarkup = e'.innerMarkup →
      e.content = e'.content := by
  refine ⟨fun e h => decode_eq_content h, fun e e' h h' he => ?_⟩
  have hd : some e.content = some e'.content := by
    rw [← decode_eq_content h, ← decode_eq_content h', he]
  exact Option.some.inj hd

-- Content with texts in pieces, special characters, a name with a label, attributes out of order
-- and an element with nothing but a comment in it.
def mixedElement : Element where
  tag.name := { localName := "desc" }
  children := [.text "a < b ", .comment "c", .text "& \"d\"",
    .element
      { name := { space := some "urn:e", label := some "e", localName := "em" },
        attributes :=
          [⟨{ localName := "title" }, "1 > 0 or \"&lt;\""⟩, ⟨{ localName := "id" }, ""⟩] }
      [.comment "f"],
    .element { name := { localName := "br" } } []]

-- What `mixedElement` says, without the detours.
def mergedElement : Element where
  tag.name := { localName := "desc" }
  children := [.text "a < b & \"d\"",
    .element
      { name := { localName := "em" },
        attributes :=
          [⟨{ localName := "id" }, ""⟩, ⟨{ localName := "title" }, "1 > 0 or \"&lt;\""⟩] }
      [.text ""],
    .element { name := { localName := "br" } } []]

theorem decode_mixedElement :
    mixedElement.Named ∧
      mixedElement.innerMarkup = "a &lt; b &amp; \"d\"<em id=\"\" " ++
        "title=\"1 &gt; 0 or &quot;&amp;lt;&quot;\"></em><br/>" ∧
      decode mixedElement.innerMarkup = some [.text "a < b & \"d\"",
        .element "em" [("id", ""), ("title", "1 > 0 or \"&lt;\"")] [], .element "br" [] []] ∧
      mergedElement.Named ∧ mixedElement.innerMarkup = mergedElement.innerMarkup ∧
      mixedElement.content = mergedElement.content := by
  have h : mixedElement.Named := by decide
  have h' : mergedElement.Named := by decide
  have hm : mixedElement.innerMarkup = mergedElement.innerMarkup := by cbv
  have hd : decode mixedElement.innerMarkup = some mixedElement.content :=
    decode_innerMarkup.left mixedElement h
  refine ⟨h, by cbv, hd.trans ?_, h', hm, decode_innerMarkup.right _ _ h h' hm⟩
  cbv

end ApiStubs.Xml
