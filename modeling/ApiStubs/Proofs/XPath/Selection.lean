import ApiStubs.Proofs.XPath.EntryQuery
import ApiStubs.Proofs.XPath.Place
import ApiStubs.Proofs.Xml.Document

/-!
Which elements the query for entries selects: those of one name and one of two kinds that are right
inside an element of another name, in document order.
-/

namespace ApiStubs

open Xml (Document Element Name Occurrence)

-- Whether an element is an entry that is rendered.
def Xml.Occurrence.isRendered (o : Occurrence) : Bool :=
  o.outer.any (·.tag.name.isPlain "entries") && o.element.tag.name.isPlain "entry" &&
    (o.element.attribute? "type" = some "method" ∨ o.element.attribute? "type" = some "property")

namespace XPath

variable {all found rows : List Row} {r b : Row} {axis : Axis} {test : Row → Bool}
  {ancestors : List Nat} {outer : Option Element} {e : Element} {p : Nat}

theorem mem_inOrder_of_subset (hc : Consecutive 0 all) (hs : found ⊆ all) :
    r ∈ inOrder all found ↔ r ∈ found := by
  rw [mem_inOrder]
  constructor
  case mp =>
    rintro ⟨hr, s, hs', hp⟩
    exact hc.eq_of_position (hs hs') hr hp ▸ hs'
  case mpr =>
    intro hr
    exact ⟨hs hr, r, hr, rfl⟩

theorem mem_onAxis : b ∈ onAxis all axis r ↔ b ∈ all ∧ axis.relates r b := by
  unfold onAxis
  split <;> simp

-- A step leads to what is on the axis of any of the rows where it starts.
theorem mem_step (hc : Consecutive 0 all) :
    b ∈ inOrder all (rows.flatMap fun r => (onAxis all axis r).filter test) ↔
      b ∈ all ∧ test b ∧ ∃ r ∈ rows, axis.relates r b := by
  have hs : (rows.flatMap fun r => (onAxis all axis r).filter test) ⊆ all := by
    intro x hx
    have ⟨r, _, hx⟩ := List.mem_flatMap.mp hx
    exact (mem_onAxis.mp (List.mem_filter.mp hx).left).left
  rw [mem_inOrder_of_subset hc hs]
  simp only [List.mem_flatMap, List.mem_filter, mem_onAxis]
  constructor
  case mp  => exact fun ⟨r, hr, ⟨hb, ha⟩, ht⟩ => ⟨hb, ht, r, hr, ha⟩
  case mpr => exact fun ⟨hb, ht, r, hr, ha⟩ => ⟨r, hr, ⟨hb, ha⟩, ht⟩

-- The root and all content below it.
def insideRows (all : List Row) : List Row :=
  inOrder all <| (all.take 1).flatMap fun r =>
    (onAxis all .descendantOrSelf r).filter fun _ => true

theorem mem_insideRows (hc : Consecutive 0 all) :
    b ∈ insideRows all ↔
      b ∈ all ∧ ∃ r, all.head? = some r ∧ Axis.descendantOrSelf.relates r b := by
  unfold insideRows
  rw [mem_step hc, List.take_one]
  simp

theorem mem_holderRows (hc : Consecutive 0 all) :
    b ∈ holderRows all ↔
      b ∈ all ∧ isNamed .child "entries" b ∧ ∃ r ∈ insideRows all, Axis.child.relates r b :=
  mem_step hc

theorem mem_entryRows (hc : Consecutive 0 all) :
    b ∈ entryRows all ↔
      b ∈ all ∧ (isNamed .child "entry" b ∧ (hasKind all "method" b || hasKind all "property" b)) ∧
        ∃ r ∈ holderRows all, Axis.child.relates r b := by
  unfold entryRows
  simp only [List.filter_filter]
  rw [mem_step hc]
  simp [and_comm]

theorem isNamed_eq (axis : Axis) (name : String) (r : Row) :
    isNamed axis name r = (axis.names? r).any (·.isPlain name) := by
  unfold isNamed
  congr
  funext meant
  cases hs : meant.space <;> simp [Name.isPlain, hs, eq_comm]

theorem isNamed_child_element {name : String} :
    isNamed .child name ⟨p, ancestors, .element e⟩ = e.tag.name.isPlain name := by
  simp [isNamed_eq, Axis.names?]

theorem isParentOf_iff : r.isParentOf b ↔ b.ancestors.head? = some r.position := by
  unfold Row.isParentOf
  split
  case h_1 h => simp [h]
  case h_2 h => simp [h]

theorem child_relates_iff (hb : b.isContent) :
    Axis.child.relates r b ↔ b.ancestors.head? = some r.position := by
  simp [Axis.relates, hb, isParentOf_iff]

namespace Around

-- Whatever is around a place is inside the document.
theorem exists_parent (hc : Consecutive 0 all) (h : Around all ancestors outer) :
    ∃ r ∈ insideRows all, ancestors.head? = some r.position := by
  have ⟨d, hd⟩ := h.exists_root
  cases h
  case root =>
    have hi : rootRow d ∈ insideRows all :=
      (mem_insideRows hc).mpr ⟨List.mem_of_head? hd, _, hd, by simp [Axis.relates]⟩
    exact ⟨_, hi, rfl⟩
  case element p ancestors outer e around row =>
    have hr : Axis.descendantOrSelf.relates (rootRow d) ⟨p, ancestors, .element e⟩ := by
      simp [Axis.relates, Row.isInside, Row.isContent, rootRow, around.zero_mem]
    exact ⟨_, (mem_insideRows hc).mpr ⟨row, _, hd, hr⟩, rfl⟩

theorem mem_holderRows_iff (hc : Consecutive 0 all) (h : Around all ancestors outer)
    (hb : ⟨p, ancestors, .element e⟩ ∈ all) :
    ⟨p, ancestors, .element e⟩ ∈ holderRows all ↔ e.tag.name.isPlain "entries" := by
  rw [mem_holderRows hc, isNamed_child_element]
  constructor
  case mp  => exact fun ⟨_, hn, _⟩ => hn
  case mpr =>
    intro hn
    have ⟨r, hr, hp⟩ := h.exists_parent hc
    exact ⟨hb, hn, r, hr, (child_relates_iff rfl).mpr hp⟩

theorem exists_holderRows_iff (hc : Consecutive 0 all) (h : Around all ancestors outer) :
    (∃ r ∈ holderRows all, Axis.child.relates r ⟨p, ancestors, .element e⟩) ↔
      outer.any (·.tag.name.isPlain "entries") := by
  cases h
  case root d row =>
    simp only [Option.any_none, Bool.false_eq_true, iff_false]
    rintro ⟨r, hr, hp⟩
    have ⟨hm, hn, _⟩ := (mem_holderRows hc).mp hr
    have hp := (child_relates_iff rfl).mp hp
    have hp : r.position = (rootRow d).position := by simpa [rootRow] using hp.symm
    have hr : r = rootRow d := hc.eq_of_position hm (List.mem_of_head? row) hp
    simp [hr, rootRow, isNamed, Axis.names?] at hn
  case element q ancestors outer o around row =>
    rw [Option.any_some, ← around.mem_holderRows_iff hc row]
    constructor
    case mp =>
      rintro ⟨r, hr, hp⟩
      have ⟨hm, _, _⟩ := (mem_holderRows hc).mp hr
      have hp := (child_relates_iff rfl).mp hp
      have hr' := hc.eq_of_position hm row (by simpa using hp.symm)
      exact hr' ▸ hr
    case mpr =>
      intro hr
      exact ⟨_, hr, (child_relates_iff rfl).mpr rfl⟩

end Around

theorem mem_kindRows (hc : Consecutive 0 all) :
    b ∈ kindRows all r ↔
      b ∈ all ∧ r.isParentOf b ∧ ∃ a, b.item = .attribute a ∧ a.name.isPlain "type" := by
  have hs : (onAxis all .attributes r).filter (isNamed .attributes "type") ⊆ all := by
    intro x hx
    exact (mem_onAxis.mp (List.mem_filter.mp hx).left).left
  rw [kindRows, mem_inOrder_of_subset hc hs, List.mem_filter, mem_onAxis]
  cases h : b.item <;> simp [Axis.relates, isNamed_eq, Axis.names?, h, and_assoc]

-- A kind is that of an attribute of the element.
theorem hasKind_iff (hc : Consecutive 0 all) (ha : Attached all)
    (hb : ⟨p, ancestors, .element e⟩ ∈ all) {kind : String} :
    hasKind all kind ⟨p, ancestors, .element e⟩ ↔
      ∃ a ∈ e.tag.attributes, a.name.isPlain "type" ∧ a.value = kind := by
  simp only [hasKind, List.any_eq_true, mem_kindRows hc, beq_iff_eq]
  constructor
  case mp =>
    rintro ⟨x, ⟨hx, hp, a, hi, hn⟩, ht⟩
    have ⟨o, ho, hop, e', he, hm⟩ := ha.owner x hx a hi
    have hpo := (isParentOf_iff.mp hp).symm.trans (isParentOf_iff.mp hop)
    have hob := hc.eq_of_position hb ho (Option.some.inj hpo)
    rw [← hob] at he
    cases he
    exact ⟨a, hm, hn, by simpa [Row.text, hi] using ht⟩
  case mpr =>
    rintro ⟨a, hm, hn, ht⟩
    have ⟨x, hx, hp, hi⟩ := ha.row _ hb e rfl a hm
    exact ⟨x, ⟨hx, hp, a, hi, hn⟩, by simpa [Row.text, hi] using ht⟩

theorem mem_entryRows_iff (hc : Consecutive 0 all) (ha : Attached all) (hd : e.tag.Distinct)
    (h : Around all ancestors outer) (hb : ⟨p, ancestors, .element e⟩ ∈ all) :
    ⟨p, ancestors, .element e⟩ ∈ entryRows all ↔ (Occurrence.mk outer e).isRendered := by
  rw [mem_entryRows hc, h.exists_holderRows_iff hc, isNamed_child_element, Bool.or_eq_true,
    hasKind_iff hc ha hb, hasKind_iff hc ha hb]
  simp only [Occurrence.isRendered, hd.attribute?_eq_some, Bool.and_eq_true, decide_eq_true_eq]
  constructor
  case mp  => exact fun ⟨_, ⟨hn, hk⟩, ho⟩ => ⟨⟨ho, hn⟩, hk⟩
  case mpr => exact fun ⟨⟨ho, hn⟩, hk⟩ => ⟨hb, ⟨hn, hk⟩, ho⟩

theorem element?_eq_none (h : ∀ e, r.item ≠ .element e) : r.element? = none := by
  unfold Row.element?
  split
  case h_1 e he => exact absurd he (h e)
  case h_2      => rfl

-- The rows of elements are the occurrences.
theorem filterMap_element?_rowsOf (d : Document) :
    (rowsOf d).filterMap Row.element? = d.occurrences.map (·.element) := by
  have hr : ReadsOccurrences (rowsOf d) Row.element? (some ·.element) :=
    ⟨fun _ => element?_eq_none, fun _ _ _ _ _ _ => rfl⟩
  rw [hr.filterMap_rowsOf, List.filterMap_eq_map']

-- If no element has two attributes of one name, the rows of rendered entries are the occurrences of
-- rendered entries.
theorem filterMap_element?_entryRows {d : Document}
    (h : ∀ o ∈ d.occurrences, o.element.tag.Distinct) :
    (entryRows (rowsOf d)).filterMap Row.element? =
      (d.occurrences.filter (·.isRendered)).map (·.element) := by
  have hc := Consecutive.rowsOf d
  have ⟨q, hq⟩ : ∃ q, entryRows (rowsOf d) = (rowsOf d).filter q := ⟨_, inOrder_eq_filter ..⟩
  have hr : ReadsOccurrences (rowsOf d) (fun r => if q r then r.element? else none)
      (fun o => if o.isRendered then some o.element else none) := by
    constructor
    case other =>
      intro r hr
      simp [element?_eq_none hr]
    case element =>
      intro p ancestors outer e ha hb
      have hm : e ∈ (rowsOf d).filterMap Row.element? := List.mem_filterMap.mpr ⟨_, hb, rfl⟩
      rw [filterMap_element?_rowsOf] at hm
      have ⟨o, ho, hoe⟩ := List.mem_map.mp hm
      have hi := mem_entryRows_iff hc (.rowsOf d) (hoe ▸ h o ho) ha hb
      rw [hq, List.mem_filter, and_iff_right hb] at hi
      simp only [hi]
      rfl
  rw [hq, List.filterMap_filter, hr.filterMap_rowsOf, ← List.filterMap_filter,
    List.filterMap_eq_map']

end XPath

-- If no element has two attributes of one name, the query selects the entries that are rendered.
theorem select_eq_rendered {d : Document} (h : ∀ o ∈ d.occurrences, o.element.tag.Distinct) :
    select d entryQuery = .ok ((d.occurrences.filter (·.isRendered)).map (·.element)) := by
  rw [select_entryQuery, XPath.filterMap_element?_entryRows h]

theorem readDocument_eq_ok {text : String} {d : Document} :
    readDocument text = .ok d ↔ Document.read text = .ok d := by
  unfold readDocument
  cases Document.read text <;> simp [Except.mapError]

theorem distinct_of_readDocument {text : String} {d : Document} (h : readDocument text = .ok d) :
    ∀ o ∈ d.occurrences, o.element.tag.Distinct := by
  intro o ho
  have ht := Document.mem_tags_of_mem_occurrences ho
  exact Document.read_yields_distinct text d (readDocument_eq_ok.mp h) _ ht

-- In a document that was read, every occurrence of an entry to be rendered is selected once, in
-- document order, and nothing else is.
theorem select_of_readDocument {text : String} {d : Document} (h : readDocument text = .ok d) :
    select d entryQuery = .ok ((d.occurrences.filter (·.isRendered)).map (·.element)) :=
  select_eq_rendered <| distinct_of_readDocument h

-- An entry in an entry, beside one of another kind.
def nestedFeed : String :=
  "<entries><entry type=\"method\"><entries><entry type=\"property\"/></entries></entry>" ++
    "<entry type=\"selector\"/></entries>"

def nestedTag (depth : Nat) (name : String) (kinds : List String) : Xml.Tag where
  name := { localName := name }
  attributes := kinds.map fun kind => ⟨{ localName := "type" }, kind⟩
  labels := List.replicate depth [] ++ [[Xml.builtInLabel]]

def innerEntry : Element :=
  ⟨nestedTag 3 "entry" ["property"], []⟩

def outerEntry : Element :=
  ⟨nestedTag 1 "entry" ["method"], [.element (nestedTag 2 "entries" []) [innerEntry.node]]⟩

def nestedDocument : Document where
  root.tag := nestedTag 0 "entries" []
  root.children := [outerEntry.node, .element (nestedTag 1 "entry" ["selector"]) []]

theorem select_nestedFeed :
    readDocument nestedFeed = .ok nestedDocument ∧
      select nestedDocument entryQuery = .ok [outerEntry, innerEntry] := by
  have hd : readDocument nestedFeed = .ok nestedDocument := by cbv
  have ho : (nestedDocument.occurrences.filter (·.isRendered)).map (·.element) =
      [outerEntry, innerEntry] :=
    rfl
  exact ⟨hd, ho ▸ select_of_readDocument hd⟩

end ApiStubs
