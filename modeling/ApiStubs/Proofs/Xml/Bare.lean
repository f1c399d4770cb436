import Mathlib.Data.List.Basic
import ApiStubs.Proofs.Escape.Reference
import ApiStubs.Proofs.Xml.Occurrence
import ApiStubs.Xml.Markup

/-!
Trees without comments and instructions. Elements, attributes and texts stay as they are, and so
does markup, unless an element holds comments and instructions and nothing else. It is written as an
empty element only when they are gone.
-/

namespace ApiStubs.Xml

variable {e c : Element} {outer : Option Element} {name : String} {o : Occurrence}

-- Whether a node is left out of texts and markup.
def Node.isRemark : Node → Bool
  | .comment _ | .instruction .. => true
  | .element .. | .text _ => false

-- A text in front of some nodes. It becomes one with a text that follows.
def consText (s : String) : List Node → List Node
  | .text t :: ns => .text (s ++ t) :: ns
  | ns => .text s :: ns

def mergeTexts : List Node → List Node
  | [] => []
  | .text s :: ns => consText s (mergeTexts ns)
  | n :: ns => n :: mergeTexts ns

mutual

-- A node and all below it without comments and instructions. Texts that get to follow each other
-- are made one.
def Node.bare : Node → List Node
  | .element tag children => [.element tag (mergeTexts (Node.bareOfList children))]
  | .text content => [.text content]
  | .comment _ | .instruction .. => []

def Node.bareOfList : List Node → List Node
  | [] => []
  | n :: ns => n.bare ++ Node.bareOfList ns

end

def Element.bare (e : Element) : Element :=
  ⟨e.tag, mergeTexts (Node.bareOfList e.children)⟩

def Document.bare (d : Document) : Document :=
  ⟨Node.bareOfList d.prolog, d.root.bare, Node.bareOfList d.epilog⟩

-- What is read off each node, and off texts piece by piece, is not changed by merging.
theorem flatMap_mergeTexts {f : Node → List α}
    (h : ∀ s t, f (.text (s ++ t)) = f (.text s) ++ f (.text t)) (ns : List Node) :
    (mergeTexts ns).flatMap f = ns.flatMap f := by
  induction ns
  case nil => rfl
  case cons n ns hi =>
    cases n
    case text s =>
      rw [mergeTexts, List.flatMap_cons, ← hi]
      cases mergeTexts ns
      case nil => rfl
      case cons m ms => cases m <;> simp [consText, h]
    all_goals simp only [mergeTexts, List.flatMap_cons, hi]

theorem mergeTexts_eq_nil {ns : List Node} : mergeTexts ns = [] ↔ ns = [] := by
  cases ns
  case nil => simp [mergeTexts]
  case cons n ns =>
    cases n
    case text s =>
      rw [mergeTexts]
      cases mergeTexts ns
      case nil => simp [consText]
      case cons m ms => cases m <;> simp [consText]
    all_goals simp [mergeTexts]

theorem Node.bareOfList_eq_flatMap (ns : List Node) : bareOfList ns = ns.flatMap bare := by
  induction ns
  case nil          => simp [bareOfList]
  case cons n ns hi => simp [bareOfList, hi]

theorem textOfList_mergeTexts (ns : List Node) :
    Node.textOfList (mergeTexts ns) = Node.textOfList ns := by
  simp only [Node.textOfList_eq_flatMap]
  exact flatMap_mergeTexts (by simp [Node.textChars]) ns

theorem markupOfList_mergeTexts (ns : List Node) :
    Node.markupOfList (mergeTexts ns) = Node.markupOfList ns := by
  simp only [Node.markupOfList_eq_flatMap]
  exact flatMap_mergeTexts (by simp [Node.markup, Escape.contentChars_append]) ns

theorem occurrencesOfList_mergeTexts (ns : List Node) :
    Node.occurrencesOfList outer (mergeTexts ns) = Node.occurrencesOfList outer ns := by
  simp only [Node.occurrencesOfList_eq_flatMap]
  exact flatMap_mergeTexts (by simp [Node.occurrences]) ns

mutual

theorem textOfList_bare : (n : Node) → Node.textOfList n.bare = n.textChars
  | .element tag children => by
    simp [Node.bare, Node.textOfList, Node.textChars, textOfList_mergeTexts,
      textOfList_bareOfList children]
  | .text _ | .comment _ | .instruction .. => by
    simp [Node.bare, Node.textOfList, Node.textChars]

theorem textOfList_bareOfList :
    (ns : List Node) → Node.textOfList (Node.bareOfList ns) = Node.textOfList ns
  | [] => by simp [Node.bareOfList]
  | n :: ns => by
    have hn := textOfList_bare n
    have hns := textOfList_bareOfList ns
    simp only [Node.textOfList_eq_flatMap] at hn hns ⊢
    rw [Node.bareOfList, List.flatMap_append, hn, hns, List.flatMap_cons]

end

def Occurrence.bare (o : Occurrence) : Occurrence :=
  ⟨o.outer.map (·.bare), o.element.bare⟩

mutual

theorem occurrencesOfList_bare (outer : Option Element) : (n : Node) →
    Node.occurrencesOfList (outer.map (·.bare)) n.bare = (n.occurrences outer).map (·.bare)
  | .element tag children => by
    have hc := occurrencesOfList_bareOfList (some ⟨tag, children⟩) children
    simp only [Option.map_some, Element.bare] at hc
    simp [Node.bare, Node.occurrencesOfList, Node.occurrences, occurrencesOfList_mergeTexts, hc,
      Occurrence.bare, Element.bare]
  | .text _ | .comment _ | .instruction .. => by
    simp [Node.bare, Node.occurrencesOfList, Node.occurrences]

theorem occurrencesOfList_bareOfList (outer : Option Element) : (ns : List Node) →
    Node.occurrencesOfList (outer.map (·.bare)) (Node.bareOfList ns) =
      (Node.occurrencesOfList outer ns).map (·.bare)
  | [] => by simp [Node.bareOfList, Node.occurrencesOfList]
  | n :: ns => by
    have hn := occurrencesOfList_bare outer n
    have hns := occurrencesOfList_bareOfList outer ns
    simp only [Node.occurrencesOfList_eq_flatMap] at hn hns ⊢
    rw [Node.bareOfList, List.flatMap_append, hn, hns, List.flatMap_cons, List.map_append]

end

namespace Element

theorem attribute?_bare (e : Element) (name : String) :
    e.bare.attribute? name = e.attribute? name :=
  rfl

theorem text_bare (e : Element) : e.bare.text = e.text := by
  simp only [text, bare, textOfList_mergeTexts, textOfList_bareOfList]

theorem elements_bare (e : Element) : e.bare.elements = e.elements.map (·.bare) := by
  simp only [elements, bare, List.filterMap_eq_flatMap_toList]
  rw [flatMap_mergeTexts (by simp), Node.bareOfList_eq_flatMap, List.flatMap_assoc,
    List.map_flatMap]
  congr
  funext n
  cases n <;> simp [Node.bare]

theorem childrenNamed_bare (e : Element) (name : String) :
    e.bare.childrenNamed name = (e.childrenNamed name).map (·.bare) := by
  simp only [childrenNamed_eq_filter, elements_bare, List.filter_map]
  rfl

theorem child?_bare (e : Element) (name : String) :
    e.bare.child? name = (e.child? name).map (·.bare) := by
  simp only [child?, childrenNamed_bare, List.head?_map]

theorem markupOfList_bare (e : Element) :
    Node.markupOfList e.bare.children = Node.markupOfList (Node.bareOfList e.children) :=
  markupOfList_mergeTexts _

-- Whether an element holds something, but only comments and instructions.
def isHollow (e : Element) : Bool :=
  !e.children.isEmpty && e.children.all Node.isRemark

-- No element below is hollow.
def Solid (e : Element) : Prop :=
  ∀ o ∈ Node.occurrencesOfList (some e) e.children, ¬o.element.isHollow

instance (e : Element) : Decidable e.Solid :=
  inferInstanceAs (Decidable (∀ o ∈ Node.occurrencesOfList (some e) e.children, _))

theorem bareOfList_eq_nil {ns : List Node} : Node.bareOfList ns = [] ↔ ns.all Node.isRemark := by
  rw [Node.bareOfList_eq_flatMap, List.flatMap_eq_nil_iff, List.all_eq_true]
  apply forall₂_congr
  intro n _
  cases n <;> simp [Node.bare, Node.isRemark]

-- An element is hollow if it becomes empty.
theorem isHollow_iff : e.isHollow ↔ e.children ≠ [] ∧ e.bare.children = [] := by
  rw [bare, mergeTexts_eq_nil, bareOfList_eq_nil, isHollow]
  simp

end Element

-- The first text is the second one, or if something is lost, a shorter one.
def Shrinks (lost : Prop) (s t : List Char) : Prop :=
  (¬lost ∧ s = t) ∨ (lost ∧ s.length < t.length)

namespace Shrinks

variable {p q : Prop} {s t s' t' : List Char}

theorem rfl (h : ¬p) : Shrinks p s s :=
  .inl ⟨h, Eq.refl s⟩

theorem append (h : Shrinks p s t) (h' : Shrinks q s' t') :
    Shrinks (p ∨ q) (s ++ s') (t ++ t') := by
  obtain ⟨hp, rfl⟩ | ⟨hp, hl⟩ := h <;> obtain ⟨hq, rfl⟩ | ⟨hq, hl'⟩ := h'
  case inl.inl => exact .rfl (by simp [hp, hq])
  all_goals exact .inr ⟨by simp [hp, hq], by simp only [List.length_append]; omega⟩

theorem between (h : Shrinks p s t) (before after : List Char) :
    Shrinks p (before ++ s ++ after) (before ++ t ++ after) := by
  obtain ⟨hp, rfl⟩ | ⟨hp, hl⟩ := h
  case inl => exact .rfl hp
  case inr => exact .inr ⟨hp, by simpa using hl⟩

theorem eq_iff (h : Shrinks p s t) : s = t ↔ ¬p := by
  obtain ⟨hp, rfl⟩ | ⟨hp, hl⟩ := h
  case inl => simp [hp]
  case inr =>
    simp only [hp, not_true_eq_false, iff_false]
    rintro rfl
    omega

end Shrinks

-- Whether some of the occurrences are those of hollow elements.
def AnyHollow (os : List Occurrence) : Prop :=
  ∃ o ∈ os, o.element.isHollow

theorem anyHollow_append {os os' : List Occurrence} :
    AnyHollow (os ++ os') ↔ AnyHollow os ∨ AnyHollow os' := by
  simp only [AnyHollow, List.mem_append, or_and_right, exists_or]

theorem shrinks_element {tag : Tag} {children : List Node}
    (h : Shrinks (AnyHollow (Node.occurrencesOfList (some ⟨tag, children⟩) children))
      (Node.markupOfList (Node.bareOfList children)) (Node.markupOfList children)) :
    Shrinks (AnyHollow ((Node.element tag children).occurrences outer))
      (Node.markupOfList (Node.element tag children).bare) (Node.element tag children).markup := by
  let e : Element := ⟨tag, children⟩
  have hb : Node.markupOfList (Node.element tag children).bare =
      (Node.element tag e.bare.children).markup := by
    simp only [Node.bare, Node.markupOfList, List.append_nil]
    rfl
  have ho : AnyHollow ((Node.element tag children).occurrences outer) ↔
      e.isHollow ∨ AnyHollow (Node.occurrencesOfList (some e) children) := by
    simp [AnyHollow, Node.occurrences, e]
  rw [← e.markupOfList_bare] at h
  rw [hb, ho, Node.markup, Node.markup]
  by_cases hn : children = []
  case pos =>
    have hf : ¬e.isHollow := by simp [Element.isHollow, e, hn]
    simp [hn, e, Element.bare, Node.bareOfList, mergeTexts, Node.occurrencesOfList, AnyHollow,
      Shrinks, Element.isHollow]
  case neg =>
    by_cases hc : e.bare.children = []
    case pos =>
      have hh : e.isHollow := Element.isHollow_iff.mpr ⟨hn, hc⟩
      refine .inr ⟨.inl hh, ?_⟩
      simp only [hn, hc, List.isEmpty_iff, if_true, if_false, List.length_append, List.length_cons]
      omega
    case neg =>
      have hh : ¬e.isHollow := fun hh => hc (Element.isHollow_iff.mp hh).right
      have hb := h.between
        ('<' :: tag.name.localName.toList ++ (sortAttributes tag.attributes).flatMap attributeMarkup
          ++ ['>'])
        ('<' :: '/' :: tag.name.localName.toList ++ ['>'])
      simpa [hn, hc, hh, e] using hb

mutual

-- The induction is on the tree. Only hollow elements lose something, the end tag at least.
theorem shrinks_bare (outer : Option Element) : (n : Node) →
    Shrinks (AnyHollow (n.occurrences outer)) (Node.markupOfList n.bare) n.markup
  | .element tag children => shrinks_element (shrinks_bareOfList _ children)
  | .text _ | .comment _ | .instruction .. => by
    simp [Node.bare, Node.markupOfList, Node.markup, Node.occurrences, AnyHollow, Shrinks]

theorem shrinks_bareOfList (outer : Option Element) : (ns : List Node) →
    Shrinks (AnyHollow (Node.occurrencesOfList outer ns)) (Node.markupOfList (Node.bareOfList ns))
      (Node.markupOfList ns)
  | [] => by simp [Node.bareOfList, Node.occurrencesOfList, AnyHollow, Shrinks]
  | n :: ns => by
    have h := (shrinks_bare outer n).append (shrinks_bareOfList outer ns)
    rw [← anyHollow_append] at h
    simpa only [Node.bareOfList, Node.occurrencesOfList, Node.markupOfList_eq_flatMap,
      List.flatMap_append, List.flatMap_cons] using h

end

-- Taking out comments and instructions changes markup exactly if it makes an element empty.
theorem Element.innerMarkup_bare (e : Element) :
    e.bare.innerMarkup = e.innerMarkup ↔ e.Solid := by
  have h := shrinks_bareOfList (some e) e.children
  rw [innerMarkup, innerMarkup, String.ofList_inj, markupOfList_bare, h.eq_iff]
  simp [AnyHollow, Solid]

end ApiStubs.Xml
