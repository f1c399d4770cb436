import ApiStubs.Proofs.XPath.Selection
import ApiStubs.Proofs.Xml.Scan

/-!
Markup as part of a document. Attributes are written without their namespaces, so two of an element
can be written with one name. Inside one element markup is read again exactly if there are none.
-/

namespace ApiStubs

open Xml (Attribute Document Element Node OpenElement Scope Tag Token WrittenName IsPlainName)

namespace Xml

variable {tokens : List Token} {tag : Tag} {attributes : List (WrittenName × String)}

-- The attributes of a start tag are written with names of their own.
def Token.Distinct : Token → Prop
  | .startTag _ attributes => (attributes.map (·.1)).Nodup
  | _ => True

instance : DecidablePred Token.Distinct
  | .startTag _ attributes => inferInstanceAs (Decidable (attributes.map (·.1)).Nodup)
  | .emptyEnd | .endTag _ | .text _ | .data _ | .comment _ | .instruction .. | .documentType =>
    inferInstanceAs (Decidable True)

namespace Document

theorem openElement_yields_distinct {scope : Scope} {name : WrittenName} :
    Yields (fun _ => (Token.startTag name attributes).Distinct)
      (openElement scope name attributes) :=
  .bind fun _ hr => .ok (Scope.enter_eq_ok hr).left

-- Every start tag up to the end of the outermost element is distinct, or the element is not read.
theorem readContent_yields_distinct (e : OpenElement) (outer : List OpenElement)
    (tokens : List Token) :
    Yields (fun r => ∀ t ∈ tokens, t.Distinct ∨ t ∈ r.2) (readContent e outer tokens) := by
  induction tokens generalizing e outer
  case nil => exact .error
  case cons token tokens hi =>
    have hn {e outer} (h : token.Distinct) :
        Yields (fun r => ∀ t ∈ token :: tokens, t.Distinct ∨ t ∈ r.2)
          (readContent e outer tokens) :=
      fun r hr => List.forall_mem_cons.mpr ⟨.inl h, hi e outer r hr⟩
    have hc {e : Element} (h : token.Distinct) :
        Yields (fun r => ∀ t ∈ token :: tokens, t.Distinct ∨ t ∈ r.2)
          (.ok (e, tokens) : Except Error (Element × List Token)) :=
      .ok <| List.forall_mem_cons.mpr ⟨.inl h, fun _ ht => .inr ht⟩
    cases token <;> simp only [readContent]
    case startTag name attributes =>
      exact .bind fun inner h => hn (openElement_yields_distinct inner h)
    case emptyEnd =>
      cases outer
      case nil  => exact hc trivial
      case cons => exact hn trivial
    case endTag =>
      split
      case isFalse => exact .error
      case isTrue  =>
        cases outer
        case nil  => exact hc trivial
        case cons => exact hn trivial
    case documentType => exact .error
    all_goals exact hn trivial

theorem readEpilog_yields_distinct (tokens : List Token) :
    Yields (fun _ => ∀ t ∈ tokens, t.Distinct) (readEpilog tokens) := by
  induction tokens
  case nil => exact .ok (by simp)
  case cons token tokens hi =>
    cases token <;> simp only [readEpilog]
    case text =>
      split
      case isTrue  => exact fun r hr => List.forall_mem_cons.mpr ⟨trivial, hi r hr⟩
      case isFalse => exact .error
    case comment | instruction =>
      exact .map fun r hr => List.forall_mem_cons.mpr ⟨trivial, hi r hr⟩
    all_goals exact .error

theorem readTokens_yields_distinct (tokens : List Token) :
    Yields (fun _ => ∀ t ∈ tokens, t.Distinct) (readTokens tokens) := by
  induction tokens
  case nil => exact .error
  case cons token tokens hi =>
    cases token <;> simp only [readTokens]
    case text =>
      split
      case isTrue  => exact fun r hr => List.forall_mem_cons.mpr ⟨trivial, hi r hr⟩
      case isFalse => exact .error
    case documentType => exact fun r hr => List.forall_mem_cons.mpr ⟨trivial, hi r hr⟩
    case comment | instruction =>
      exact .bind fun d hd => .ok <| List.forall_mem_cons.mpr ⟨trivial, hi d hd⟩
    case startTag name attributes =>
      refine .bind fun e he => .bind fun r hr => .bind fun epilog hp => .ok ?_
      refine List.forall_mem_cons.mpr ⟨openElement_yields_distinct e he, fun t ht => ?_⟩
      cases readContent_yields_distinct e [] tokens r hr t ht
      case inl h => exact h
      case inr h => exact readEpilog_yields_distinct r.2 epilog hp t h
    all_goals exact .error

end Document

-- Without labels and declarations, distinct attributes are all that a start tag needs.
theorem Scope.exists_enter (scope : Scope) (name : String)
    (hn : ∀ a ∈ attributes, a.1.label = none ∧ a.1.localName ≠ "xmlns")
    (hd : (attributes.map (·.1)).Nodup) : ∃ r, scope.enter ⟨none, name⟩ attributes = .ok r := by
  have hl : labelsOf attributes = [] :=
    List.filterMap_eq_nil_iff.mpr fun a ha => by simp [(hn a ha).left]
  have hu : unlabelledOf attributes = [] :=
    List.filterMap_eq_nil_iff.mpr fun a ha => by simp [(hn a ha).right]
  have hm (near : List Labels) : ∃ meant, meantOf near attributes = .ok meant := by
    refine ⟨_, mapM_eq_ok (g := fun a => ⟨⟨none, none, a.1.localName⟩, a.2⟩) fun a ha => ?_⟩
    have ha := (List.mem_filter.mp (List.mem_mergeSort.mp ha)).left
    simp only [resolve, (hn a ha).left]
    rfl
  obtain ⟨meant, hm⟩ := hm ([] :: scope.labels ++ [[builtInLabel]])
  simp only [enter, hd, hl, hu, not_true, if_false, List.any_nil, Bool.false_eq_true, pure_bind]
  exact ⟨_, bind_eq_ok.mpr ⟨meant, hm, rfl⟩⟩

namespace Document

theorem exists_openElement (scope : Scope) (ht : tag.Plain) (hd : tag.startToken.Distinct) :
    ∃ e, openElement scope ⟨none, tag.name.localName⟩
        ((sortAttributes tag.attributes).map (·.written)) = .ok e ∧
      e.written = ⟨none, tag.name.localName⟩ := by
  have hn : ∀ a ∈ (sortAttributes tag.attributes).map (·.written),
      a.1.label = none ∧ a.1.localName ≠ "xmlns" :=
    List.forall_mem_map.mpr fun a ha => ⟨rfl, ht.undeclaring a (List.mem_mergeSort.mp ha)⟩
  have ⟨r, hr⟩ := scope.exists_enter tag.name.localName hn hd
  simp [openElement, hr, bind, Except.bind, pure, Except.pure]

-- Tokens that are read as content of any element, whatever comes after them.
def IsContent (tokens : List Token) : Prop :=
  ∀ (e : OpenElement) (outer : List OpenElement), ∃ e' : OpenElement, e'.written = e.written ∧
    ∀ rest, readContent e outer (tokens ++ rest) = readContent e' outer rest

namespace IsContent

variable {more : List Token}

theorem append (h : IsContent tokens) (h' : IsContent more) : IsContent (tokens ++ more) := by
  intro e outer
  have ⟨i, hi, hr⟩ := h e outer
  have ⟨i', hi', hr'⟩ := h' i outer
  exact ⟨i', hi'.trans hi, fun rest => by rw [List.append_assoc, hr, hr']⟩

theorem texts (h : ∀ t ∈ tokens, ¬t.isMark) : IsContent tokens := by
  induction tokens
  case nil => exact fun e _ => ⟨e, rfl, fun _ => rfl⟩
  case cons token tokens hi =>
    have ⟨ht, hts⟩ := List.forall_mem_cons.mp h
    intro e outer
    cases token
    case text content | data content =>
      have ⟨e', he, hr⟩ := hi hts (e.add (.text content)) outer
      exact ⟨e', he, hr⟩
    all_goals exact absurd rfl ht

theorem element (ht : tag.Plain) (hd : tag.startToken.Distinct) {last : Token}
    (hl : last = .emptyEnd ∨ last = tag.endToken) (h : IsContent tokens) :
    IsContent (tag.startToken :: (tokens ++ [last])) := by
  intro e outer
  have ⟨inner, ho, hw⟩ := exists_openElement e.scope ht hd
  have ⟨i, hi, hr⟩ := h inner (e :: outer)
  refine ⟨e.add i.close.node, rfl, fun rest => ?_⟩
  have hr := hr (last :: rest)
  have he : ⟨none, tag.name.localName⟩ = i.written := (hi.trans hw).symm
  simp only [List.cons_append, List.append_assoc, List.nil_append, Tag.startToken, readContent, ho,
    bind, Except.bind, hr]
  obtain rfl | rfl := hl
  case inl => rfl
  case inr => simp only [Tag.endToken, he, readContent, if_true]

-- Only the marks among some tokens matter, for what is between them is text.
theorem of_marks_nil (h : tokens.filter (·.isMark) = []) : IsContent tokens :=
  texts (List.filter_eq_nil_iff.mp h)

theorem exists_of_marks_cons {mark : Token} {marks : List Token}
    (h : tokens.filter (·.isMark) = mark :: marks) :
    ∃ before after, tokens = before ++ mark :: after ∧ IsContent before ∧
      after.filter (·.isMark) = marks := by
  have ⟨before, after, ht, hb, _, ha⟩ := List.filter_eq_cons_iff.mp h
  exact ⟨before, after, ht, texts hb, ha⟩

theorem of_marks_element (ht : tag.Plain) (hd : tag.startToken.Distinct) {last : Token}
    (hl : last = .emptyEnd ∨ last = tag.endToken) {marks : List Token}
    (hc : ∀ {tokens}, tokens.filter (·.isMark) = marks → IsContent tokens)
    (h : tokens.filter (·.isMark) = tag.startToken :: (marks ++ [last])) : IsContent tokens := by
  obtain ⟨before, inside, rfl, hb, hi⟩ := exists_of_marks_cons h
  obtain ⟨content, closing, rfl, hk, he⟩ := List.filter_eq_append_iff.mp hi
  obtain ⟨texts, after, rfl, hx, ha⟩ := exists_of_marks_cons he
  have hn := ((hc hk).append hx).element ht hd hl
  simpa using hb.append (hn.append (of_marks_nil ha))

end IsContent
end Document

mutual

-- The induction is on the tree. With distinct start tags, what markup is scanned as is content.
theorem Node.isContent_of_marks {tokens : List Token} :
    (n : Node) → (∀ tag ∈ n.tags, tag.Plain) → (∀ t ∈ n.marks, t.Distinct) →
      tokens.filter (·.isMark) = n.marks → Document.IsContent tokens
  | .element tag children, hp, hd, h => by
    have ⟨ht, hc⟩ := List.forall_mem_cons.mp hp
    cases children
    case nil =>
      exact .of_marks_element ht (hd _ List.mem_cons_self) (.inl rfl) .of_marks_nil h
    case cons n ns =>
      have ⟨hs, hd⟩ := List.forall_mem_cons.mp hd
      have ⟨hd, _⟩ := List.forall_mem_append.mp hd
      exact .of_marks_element ht hs (.inr rfl)
        (fun h => Node.isContent_of_marksOfList (n :: ns) hc hd h) h
  | .text _, _, _, h | .comment _, _, _, h | .instruction .., _, _, h => .of_marks_nil h

theorem Node.isContent_of_marksOfList {tokens : List Token} :
    (ns : List Node) → (∀ tag ∈ Node.tagsOfList ns, tag.Plain) →
      (∀ t ∈ Node.marksOfList ns, t.Distinct) →
      tokens.filter (·.isMark) = Node.marksOfList ns → Document.IsContent tokens
  | [], _, _, h => .of_marks_nil h
  | n :: ns, hp, hd, h => by
    have ⟨hpn, hpns⟩ := List.forall_mem_append.mp hp
    have ⟨hdn, hdns⟩ := List.forall_mem_append.mp hd
    obtain ⟨content, more, rfl, hn, hns⟩ := List.filter_eq_append_iff.mp h
    exact (Node.isContent_of_marks n hpn hdn hn).append
      (Node.isContent_of_marksOfList ns hpns hdns hns)

end
theorem Token.forall_distinct_filter :
    (∀ t ∈ tokens.filter (·.isMark), t.Distinct) ↔ ∀ t ∈ tokens, t.Distinct := by
  constructor
  case mpr => exact fun h t ht => h t (List.mem_filter.mp ht).left
  case mp =>
    intro h t ht
    by_cases hm : t.isMark
    case pos => exact h t (List.mem_filter.mpr ⟨ht, hm⟩)
    case neg => cases t <;> first | exact trivial | exact absurd rfl hm

theorem Tag.distinct_startToken :
    tag.startToken.Distinct ↔ (tag.attributes.map (·.name.localName)).Nodup := by
  let written (name : String) : WrittenName := ⟨none, name⟩
  have hw : Function.Injective written := fun _ _ h => (WrittenName.mk.inj h).right
  have hm : ((sortAttributes tag.attributes).map (·.written)).map (·.1) =
      ((sortAttributes tag.attributes).map (·.name.localName)).map written := by
    rw [List.map_map, List.map_map]
    rfl
  have hs : (sortAttributes tag.attributes).Perm tag.attributes := List.mergeSort_perm _ _
  change (((sortAttributes tag.attributes).map (·.written)).map (·.1)).Nodup ↔ _
  rw [hm, List.nodup_map_iff hw]
  exact (hs.map _).nodup_iff

-- No two attributes of an element below have one name when their namespaces are left out.
def Element.Unambiguous (e : Element) : Prop :=
  ∀ tag ∈ Node.tagsOfList e.children, (tag.attributes.map (·.name.localName)).Nodup

instance (e : Element) : Decidable e.Unambiguous :=
  inferInstanceAs (Decidable (∀ tag ∈ Node.tagsOfList e.children, _))

mutual

theorem Node.forall_distinct_marks : (n : Node) →
    ((∀ t ∈ n.marks, t.Distinct) ↔
      ∀ tag ∈ n.tags, (tag.attributes.map (·.name.localName)).Nodup)
  | .element tag children => by
    have hc := Node.forall_distinct_marksOfList children
    cases children
    case nil =>
      have hk : (Node.element tag []).marks = [tag.startToken, .emptyEnd] := by simp [Node.marks]
      rw [hk, Node.tags, List.forall_mem_cons, List.forall_mem_cons, Tag.distinct_startToken]
      simp [Token.Distinct, Node.tagsOfList]
    case cons n ns =>
      have hk : (Node.element tag (n :: ns)).marks =
          tag.startToken :: (Node.marksOfList (n :: ns) ++ [tag.endToken]) := by
        simp [Node.marks]
      rw [hk, Node.tags, List.forall_mem_cons, List.forall_mem_cons, List.forall_mem_append, hc,
        Tag.distinct_startToken]
      simp [Tag.endToken, Token.Distinct]
  | .text _ | .comment _ | .instruction .. => by simp [Node.marks, Node.tags]

theorem Node.forall_distinct_marksOfList : (ns : List Node) →
    ((∀ t ∈ Node.marksOfList ns, t.Distinct) ↔
      ∀ tag ∈ Node.tagsOfList ns, (tag.attributes.map (·.name.localName)).Nodup)
  | [] => by simp [Node.marksOfList, Node.tagsOfList]
  | n :: ns => by
    rw [Node.marksOfList, Node.tagsOfList, List.forall_mem_append, List.forall_mem_append,
      Node.forall_distinct_marks n, Node.forall_distinct_marksOfList ns]

end

namespace Element

variable {e : Element} {name : String}

-- The pieces of an element's markup in front of a tag or at the end of a text.
theorem exists_scans (hp : ∀ tag ∈ Node.tagsOfList e.children, tag.Plain) {rest : List Char}
    (hr : Token.EndsText rest) :
    ∃ tokens, Token.Scans (e.innerMarkup.toList ++ rest) tokens rest ∧
      tokens.filter (·.isMark) = Node.marksOfList e.children := by
  have ⟨tokens, ht, hm⟩ := (Node.reads_markupOfList hr (.done hr) e.children hp).scans
  rw [List.append_nil] at hm
  rw [innerMarkup, String.toList_ofList]
  exact ⟨tokens, ht, hm⟩

theorem forall_distinct_iff (h : tokens.filter (·.isMark) = Node.marksOfList e.children) :
    (∀ t ∈ tokens, t.Distinct) ↔ e.Unambiguous := by
  rw [← Token.forall_distinct_filter, h]
  exact Node.forall_distinct_marksOfList e.children

theorem Unambiguous.isContent (h : e.Unambiguous)
    (hp : ∀ tag ∈ Node.tagsOfList e.children, tag.Plain)
    (hm : tokens.filter (·.isMark) = Node.marksOfList e.children) : Document.IsContent tokens :=
  have hd := (Node.forall_distinct_marksOfList e.children).mpr h
  Node.isContent_of_marksOfList e.children hp hd hm

-- Markup inside an element of its own.
def wrapped (e : Element) (name : String) : String :=
  "<" ++ name ++ ">" ++ e.innerMarkup ++ "</" ++ name ++ ">"

theorem toList_wrapped (e : Element) (name : String) :
    (e.wrapped name).toList = Decoder.startMarkup { name := { localName := name } } ++ '>' ::
      (e.innerMarkup.toList ++ '<' :: '/' :: (name.toList ++ ['>'])) := by
  simp [wrapped, Decoder.startMarkup, sortAttributes]

theorem read_wrapped (hn : IsPlainName name.toList) :
    Document.read (e.wrapped name) =
      Token.scan (e.wrapped name).toList >>= Document.readTokens := by
  have ⟨first, part, hs, hf, _⟩ := hn.exists_cons
  have ⟨he, hq⟩ : first ≠ '!' ∧ first ≠ '?' := by constructor <;> rintro rfl <;> cases hf
  have ht : ['<', first] <+: (e.wrapped name).toList := by
    rw [wrapped]
    simp [hs]
  exact Document.read_of_tag ht ⟨he, hq⟩

-- An element with its markup inside is read exactly if its start tags are distinct.
theorem exists_read_wrapped (hp : ∀ tag ∈ Node.tagsOfList e.children, tag.Plain)
    (hn : IsPlainName name.toList) :
    (∃ d, Document.read (e.wrapped name) = .ok d) ↔ e.Unambiguous := by
  let tag : Tag := { name := { localName := name } }
  let ending := '<' :: '/' :: (name.toList ++ ['>'])
  have htag : tag.Plain := ⟨hn, by simp [tag], by simp [tag]⟩
  have hending : Token.EndsText ending := .inr ⟨_, rfl⟩
  have ⟨tokens, ht, hm⟩ := exists_scans hp hending
  have hscan : Token.scan (e.wrapped name).toList =
      .ok (tag.startToken :: (tokens ++ [tag.endToken])) := by
    have hs := Token.Scans.single (Token.next?_startMarkup htag (.inr rfl)
      (e.innerMarkup.toList ++ ending)) (by simp only [List.length_append, List.length_cons]; omega)
    have he := Token.Scans.single (Token.next?_endMarkup htag [])
      (by simp only [List.length_append, List.length_cons]; omega)
    rw [toList_wrapped]
    exact (hs.trans (ht.trans he)).scan_eq
  rw [read_wrapped hn, hscan]
  constructor
  case mp =>
    intro ⟨d, h⟩
    have h := Document.readTokens_yields_distinct _ d h
    exact (forall_distinct_iff hm).mp fun t ht =>
      h t (List.mem_cons_of_mem _ (List.mem_append_left _ ht))
  case mpr =>
    intro hu
    have hs : tag.startToken.Distinct := Tag.distinct_startToken.mpr List.nodup_nil
    have ⟨root, ho, hw⟩ := Document.exists_openElement {} htag hs
    have ⟨root', hr, hk⟩ := hu.isContent hp hm root []
    have hl : ⟨none, name⟩ = root'.written := (hr.trans hw).symm
    have hr : Document.readContent root [] (tokens ++ [tag.endToken]) = .ok (root'.close, []) := by
      rw [hk]
      simp only [Tag.endToken, tag, hl, Document.readContent, if_true]
    have hd : Document.readTokens (tag.startToken :: (tokens ++ [tag.endToken])) =
        .ok { root := root'.close } :=
      bind_eq_ok.mpr ⟨root, ho, bind_eq_ok.mpr ⟨_, hr, rfl⟩⟩
    exact ⟨_, hd⟩

end Element
end Xml

-- The markup of every element of a document can be scanned, and its tags are those of the element's
-- content. Their attributes are distinct, and markup can be read again inside one element, exactly
-- if no element in it has two attributes that differ in their namespaces only.
theorem innerMarkup_readable {text : String} {d : Document} (h : readDocument text = .ok d)
    {o : Xml.Occurrence} (ho : o ∈ d.occurrences) :
    (∃ tokens, Token.scan o.element.innerMarkup.toList = .ok tokens ∧
      tokens.filter (·.isMark) = Node.marksOfList o.element.children ∧
      ((∀ t ∈ tokens, t.Distinct) ↔ o.element.Unambiguous)) ∧
    ∀ name : String, IsPlainName name.toList →
      ((∃ d', readDocument (o.element.wrapped name) = .ok d') ↔ o.element.Unambiguous) := by
  have hp : ∀ tag ∈ Node.tagsOfList o.element.children, tag.Plain := fun tag ht =>
    Document.read_yields_plain text d (readDocument_eq_ok.mp h) tag <|
      Document.mem_tags_of_mem_inner ho ht
  constructor
  case left =>
    have ⟨tokens, ht, hm⟩ := Element.exists_scans hp (.inl rfl)
    rw [List.append_nil] at ht
    exact ⟨tokens, ht.scan_eq, hm, Element.forall_distinct_iff hm⟩
  case right =>
    intro name hn
    rw [← Element.exists_read_wrapped hp hn]
    simp only [readDocument_eq_ok]

-- An element with a language and another attribute without a label.
def labelledFeed : String :=
  "<r><a xml:lang=\"x\" id=\"y\">1</a></r>"

def labelledElement (name : String) : Element where
  tag.name := { localName := "r" }
  tag.labels := [[Xml.builtInLabel]]
  children := [
    .element
      { name := { localName := "a" }
        attributes :=
          [⟨{ localName := name }, "y"⟩, ⟨⟨some Xml.builtInLabel.2, some "xml", "lang"⟩, "x"⟩]
        labels := [[], [Xml.builtInLabel]] }
      [.text "1"]]

theorem innerMarkup_labelledFeed :
    readDocument labelledFeed = .ok { root := labelledElement "id" } ∧
      (labelledElement "id").Unambiguous ∧ IsPlainName "q".toList ∧
      (∃ tokens, Token.scan (labelledElement "id").innerMarkup.toList = .ok tokens ∧
        ∀ t ∈ tokens, t.Distinct) ∧
      ∃ d, readDocument ((labelledElement "id").wrapped "q") = .ok d := by
  have hd : readDocument labelledFeed = .ok { root := labelledElement "id" } := by cbv
  have hu : (labelledElement "id").Unambiguous := by decide
  have hq : IsPlainName "q".toList := by decide
  have ho : ⟨none, labelledElement "id"⟩ ∈ Document.occurrences { root := labelledElement "id" } :=
    List.mem_cons_self
  obtain ⟨⟨tokens, ht, _, hs⟩, hr⟩ := innerMarkup_readable hd ho
  exact ⟨hd, hu, hq, ⟨tokens, ht, hs.mpr hu⟩, (hr "q" hq).mpr hu⟩

-- Two languages, one with a label. Without it the markup has two attributes of one name.
def ambiguousFeed : String :=
  "<r><a xml:lang=\"x\" lang=\"y\">1</a></r>"

theorem innerMarkup_ambiguousFeed :
    readDocument ambiguousFeed = .ok { root := labelledElement "lang" } ∧
      (labelledElement "lang").innerMarkup = "<a lang=\"y\" lang=\"x\">1</a>" ∧
      (∃ tokens, Token.scan (labelledElement "lang").innerMarkup.toList = .ok tokens ∧
        ∃ t ∈ tokens, ¬t.Distinct) ∧
      ¬∃ d, readDocument ((labelledElement "lang").wrapped "q") = .ok d := by
  let start : Token := .startTag ⟨none, "a"⟩ [(⟨none, "lang"⟩, "y"), (⟨none, "lang"⟩, "x")]
  have hd : readDocument ambiguousFeed = .ok { root := labelledElement "lang" } := by cbv
  have hm : (labelledElement "lang").innerMarkup = "<a lang=\"y\" lang=\"x\">1</a>" := by cbv
  have hs : Token.scan (labelledElement "lang").innerMarkup.toList =
      .ok [start, .text "1", .endTag ⟨none, "a"⟩] := by
    rw [hm]
    rfl
  have hr : readDocument ((labelledElement "lang").wrapped "q") =
      .error (.malformed Xml.Error.duplicateAttribute.message) := by
    rw [Element.wrapped, hm]
    cbv
  refine ⟨hd, hm, ⟨_, hs, start, List.mem_cons_self, by decide⟩, ?_⟩
  simp [hr]

end ApiStubs
