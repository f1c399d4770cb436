import Mathlib.Data.List.Nodup
import ApiStubs.Proofs.Xml.Occurrence
import ApiStubs.XPath.Row

/-!
The rows of a document and the tree that they were made from. No two rows have one position, so a
row is told by its position. The rows of elements are the occurrences of elements, and the rows of
attributes belong to the elements that have the attributes.
-/

namespace ApiStubs.XPath

open Xml (Node Tag Element Attribute Document Occurrence)

variable {rows later : List Row} {items : List Item} {ancestors : List Nat} {r : Row} {p : Nat}

theorem length_place (p : Nat) (ancestors : List Nat) (items : List Item) :
    (place p ancestors items).length = items.length := by
  simp [place]

theorem of_mem_place (h : r ∈ place p ancestors items) :
    r.ancestors = ancestors ∧ r.item ∈ items := by
  have ⟨x, hx, hr⟩ := List.mem_map.mp h
  rw [← hr]
  exact ⟨rfl, List.fst_mem_of_mem_zipIdx hx⟩

theorem exists_mem_place {i : Item} (h : i ∈ items) (p : Nat) (ancestors : List Nat) :
    ∃ r ∈ place p ancestors items, r.ancestors = ancestors ∧ r.item = i := by
  rw [← List.zipIdx_map_fst p items] at h
  have ⟨x, hx, hi⟩ := List.mem_map.mp h
  exact ⟨⟨x.2, ancestors, x.1⟩, List.mem_map_of_mem hx, rfl, hi⟩

theorem label_of_mem_labelRows (h : r ∈ labelRows p rows) :
    ∃ label space, r.item = .label label space := by
  induction rows generalizing p
  case nil => simp [labelRows] at h
  case cons s rows hi =>
    rw [labelRows] at h
    split at h
    case h_2 => exact hi h
    case h_1 e _ =>
      cases List.mem_append.mp h
      case inr h => exact hi h
      case inl h =>
        have ⟨⟨label, space⟩, _, hl⟩ := List.mem_map.mp (of_mem_place h).right
        exact ⟨label, space, hl.symm⟩

-- Rows whose positions follow each other, from one position on.
def Consecutive (p : Nat) (rows : List Row) : Prop :=
  rows.map (·.position) = List.range' p rows.length

namespace Consecutive

theorem nil : Consecutive p [] :=
  rfl

theorem cons (h : Consecutive (p + 1) rows) (hr : r.position = p) : Consecutive p (r :: rows) := by
  unfold Consecutive at h ⊢
  rw [List.map_cons, List.length_cons, List.range'_succ, h, hr]

theorem append (h : Consecutive p rows) (hl : Consecutive (p + rows.length) later) :
    Consecutive p (rows ++ later) := by
  unfold Consecutive at h hl ⊢
  rw [List.map_append, List.length_append, h, hl, List.range'_append_1]

-- So a row is told by its position.
theorem eq_of_position (h : Consecutive p rows) {s : Row} (hr : r ∈ rows) (hs : s ∈ rows)
    (hp : r.position = s.position) : r = s := by
  have hn : (rows.map (·.position)).Nodup := by
    rw [h]
    exact List.nodup_range'
  exact List.inj_on_of_nodup_map hn hr hs hp

theorem place (p : Nat) (ancestors : List Nat) (items : List Item) :
    Consecutive p (place p ancestors items) := by
  induction items generalizing p
  case nil                => exact .nil
  case cons item items hi => exact (hi (p + 1)).cons rfl

mutual

theorem rowsOfNode (p : Nat) (ancestors : List Nat) :
    (n : Node) → Consecutive p (rowsOfNode p ancestors n)
  | .element tag children => by
    have hp := place (p + 1) (p :: ancestors) (attributeItems tag)
    have hl := rowsOfList (p + 1 + (attributeItems tag).length) (p :: ancestors) children
    rw [XPath.rowsOfNode]
    apply (hp.cons rfl).append
    rwa [List.length_cons, length_place, ← Nat.add_assoc, Nat.add_right_comm]
  | .text _ | .comment _ | .instruction .. => by
    rw [XPath.rowsOfNode]
    exact nil.cons rfl

theorem rowsOfList (p : Nat) (ancestors : List Nat) :
    (ns : List Node) → Consecutive p (rowsOfList p ancestors ns)
  | [] => by
    rw [XPath.rowsOfList]
    exact nil
  | n :: ns => by
    rw [XPath.rowsOfList]
    exact (rowsOfNode p ancestors n).append (rowsOfList _ ancestors ns)

end

theorem labelRows (p : Nat) (rows : List Row) : Consecutive p (labelRows p rows) := by
  induction rows generalizing p
  case nil            => exact .nil
  case cons r rows hi =>
    rw [XPath.labelRows]
    split
    case h_2     => exact hi p
    case h_1 e _ =>
      apply (place ..).append
      rw [length_place]
      exact hi _

theorem rowsOf (d : Document) : Consecutive 0 (rowsOf d) := by
  have hr : Consecutive 0 (rootRow d :: XPath.rowsOfList 1 [0] d.children) :=
    (rowsOfList 1 [0] d.children).cons rfl
  apply hr.append
  rw [Nat.zero_add]
  exact labelRows ..

end Consecutive

-- The rows around a place: the root at the end, and before it elements, of which the first one is
-- given.
inductive Around (all : List Row) : List Nat → Option Element → Prop
  | root {d : Document} (row : all.head? = some (rootRow d)) : Around all [0] none
  | element {p : Nat} {ancestors : List Nat} {outer : Option Element} {e : Element}
    (around : Around all ancestors outer) (row : ⟨p, ancestors, .element e⟩ ∈ all) :
    Around all (p :: ancestors) (some e)

namespace Around

variable {all : List Row} {outer : Option Element}

theorem exists_root (h : Around all ancestors outer) : ∃ d, all.head? = some (rootRow d) := by
  induction h
  case root d row => exact ⟨d, row⟩
  case element hi => exact hi

theorem zero_mem (h : Around all ancestors outer) : 0 ∈ ancestors := by
  induction h
  case root       => exact List.mem_singleton_self 0
  case element hi => exact List.mem_cons_of_mem _ hi

end Around

-- What is read off rows is read off those of elements alone, and from the rows around it each of
-- them is known to be an occurrence.
structure ReadsOccurrences (all : List Row) (f : Row → Option α) (g : Occurrence → Option α) :
    Prop where
  other : ∀ r : Row, (∀ e, r.item ≠ .element e) → f r = none
  element : ∀ p ancestors outer e, Around all ancestors outer →
    ⟨p, ancestors, .element e⟩ ∈ all → f ⟨p, ancestors, .element e⟩ = g ⟨outer, e⟩

namespace ReadsOccurrences

variable {all : List Row} {f : Row → Option α} {g : Occurrence → Option α}

theorem filterMap_place (h : ReadsOccurrences all f g) (p : Nat) (ancestors : List Nat)
    (tag : Tag) :
    (place p ancestors (attributeItems tag)).filterMap f = [] := by
  rw [List.filterMap_eq_nil_iff]
  intro r hr
  have ⟨a, _, ha⟩ := List.mem_map.mp (of_mem_place hr).right
  exact h.other r fun e he => by simp [he] at ha

theorem filterMap_labelRows (h : ReadsOccurrences all f g) (p : Nat) (rows : List Row) :
    (labelRows p rows).filterMap f = [] := by
  rw [List.filterMap_eq_nil_iff]
  intro r hr
  have ⟨_, _, hl⟩ := label_of_mem_labelRows hr
  exact h.other r fun e he => by simp [he] at hl

mutual

theorem filterMap_rowsOfNode (h : ReadsOccurrences all f g) {p : Nat} {ancestors : List Nat}
    {outer : Option Element} (ha : Around all ancestors outer) :
    (n : Node) → rowsOfNode p ancestors n ⊆ all →
      (rowsOfNode p ancestors n).filterMap f = (n.occurrences outer).filterMap g
  | .element tag children, hs => by
    rw [rowsOfNode] at hs ⊢
    have hm : ⟨p, ancestors, .element ⟨tag, children⟩⟩ ∈ all := hs (by simp)
    have hc := h.filterMap_rowsOfList (.element ha hm) children fun r hr =>
      hs (List.mem_append_right _ hr)
    rw [List.cons_append, List.filterMap_cons, List.filterMap_append, h.filterMap_place,
      List.nil_append, hc, h.element _ _ _ _ ha hm, Node.occurrences, List.filterMap_cons]
  | .text _, _ | .comment _, _ | .instruction .., _ => by
    simp [rowsOfNode, Node.occurrences, h.other]

theorem filterMap_rowsOfList (h : ReadsOccurrences all f g) {p : Nat} {ancestors : List Nat}
    {outer : Option Element} (ha : Around all ancestors outer) :
    (ns : List Node) → rowsOfList p ancestors ns ⊆ all →
      (rowsOfList p ancestors ns).filterMap f = (Node.occurrencesOfList outer ns).filterMap g
  | [], _ => by
    simp [rowsOfList, Node.occurrencesOfList]
  | n :: ns, hs => by
    rw [rowsOfList] at hs ⊢
    have hf := h.filterMap_rowsOfNode ha n fun r hr => hs (List.mem_append_left _ hr)
    have hl := h.filterMap_rowsOfList ha ns fun r hr => hs (List.mem_append_right _ hr)
    rw [List.filterMap_append, hf, hl, Node.occurrencesOfList, List.filterMap_append]

end

theorem filterMap_rowsOf {d : Document} (h : ReadsOccurrences (rowsOf d) f g) :
    (rowsOf d).filterMap f = d.occurrences.filterMap g := by
  have hs : rowsOfList 1 [0] d.children ⊆ rowsOf d := by
    intro r hr
    simp [rowsOf, hr]
  have hl := h.filterMap_rowsOfList (.root rfl) d.children hs
  have hn : f (rootRow d) = none := h.other (rootRow d) (by simp [rootRow])
  rw [rowsOf, List.filterMap_append, List.filterMap_cons, h.filterMap_labelRows, hn, hl,
    List.append_nil, Document.occurrences]

end ReadsOccurrences

-- The rows of attributes belong to the elements that have the attributes.
structure Attached (rows : List Row) : Prop where
  owner : ∀ r ∈ rows, ∀ a, r.item = .attribute a →
    ∃ o ∈ rows, o.isParentOf r ∧ ∃ e, o.item = .element e ∧ a ∈ e.tag.attributes
  row : ∀ o ∈ rows, ∀ e, o.item = .element e → ∀ a ∈ e.tag.attributes,
    ∃ r ∈ rows, o.isParentOf r ∧ r.item = .attribute a

namespace Attached

theorem append (h : Attached rows) (hl : Attached later) : Attached (rows ++ later) where
  owner r hr a ha := by
    cases List.mem_append.mp hr
    case inl hr =>
      have ⟨o, ho, h⟩ := h.owner r hr a ha
      exact ⟨o, List.mem_append_left _ ho, h⟩
    case inr hr =>
      have ⟨o, ho, h⟩ := hl.owner r hr a ha
      exact ⟨o, List.mem_append_right _ ho, h⟩
  row o ho e he a ha := by
    cases List.mem_append.mp ho
    case inl ho =>
      have ⟨r, hr, h⟩ := h.row o ho e he a ha
      exact ⟨r, List.mem_append_left _ hr, h⟩
    case inr ho =>
      have ⟨r, hr, h⟩ := hl.row o ho e he a ha
      exact ⟨r, List.mem_append_right _ hr, h⟩

-- Rows of other nodes do not matter.
theorem of_other (h : ∀ r ∈ rows, (∀ e, r.item ≠ .element e) ∧ ∀ a, r.item ≠ .attribute a) :
    Attached rows where
  owner r hr a ha := absurd ha ((h r hr).right a)
  row o ho e he := absurd he ((h o ho).left e)

theorem element (p : Nat) (ancestors : List Nat) (e : Element) :
    Attached (⟨p, ancestors, .element e⟩ ::
      place (p + 1) (p :: ancestors) (attributeItems e.tag)) where
  owner r hr a ha := by
    refine ⟨_, List.mem_cons_self, ?_⟩
    cases hr
    case head => cases ha
    case tail hr =>
      have ⟨hp, hi⟩ := of_mem_place hr
      refine ⟨by simp [Row.isParentOf, hp], e, rfl, ?_⟩
      simpa [ha, attributeItems] using hi
  row o ho e' he a ha := by
    cases ho
    case head =>
      cases he
      have hi : .attribute a ∈ attributeItems e.tag := by simpa [attributeItems] using ha
      have ⟨r, hr, hp, hra⟩ := exists_mem_place hi (p + 1) (p :: ancestors)
      exact ⟨r, List.mem_cons_of_mem _ hr, by simp [Row.isParentOf, hp], hra⟩
    case tail ho =>
      have hi := (of_mem_place ho).right
      simp [he, attributeItems] at hi

mutual

theorem rowsOfNode (p : Nat) (ancestors : List Nat) :
    (n : Node) → Attached (rowsOfNode p ancestors n)
  | .element tag children => by
    rw [XPath.rowsOfNode]
    exact (element p ancestors ⟨tag, children⟩).append (rowsOfList ..)
  | .text _ | .comment _ | .instruction .. => by
    rw [XPath.rowsOfNode]
    exact of_other (by simp)

theorem rowsOfList (p : Nat) (ancestors : List Nat) :
    (ns : List Node) → Attached (rowsOfList p ancestors ns)
  | [] => by
    rw [XPath.rowsOfList]
    exact of_other (by simp)
  | n :: ns => by
    rw [XPath.rowsOfList]
    exact (rowsOfNode p ancestors n).append (rowsOfList _ ancestors ns)

end

theorem rowsOf (d : Document) : Attached (rowsOf d) := by
  have hr : Attached [rootRow d] := of_other (by simp [rootRow])
  have hl : Attached (labelRows (rootRow d :: XPath.rowsOfList 1 [0] d.children).length
      (rootRow d :: XPath.rowsOfList 1 [0] d.children)) := by
    refine of_other fun r hr => ?_
    have ⟨_, _, hl⟩ := label_of_mem_labelRows hr
    simp [hl]
  exact (hr.append (rowsOfList 1 [0] d.children)).append hl

end Attached
end ApiStubs.XPath
