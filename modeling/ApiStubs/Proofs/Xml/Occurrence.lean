import ApiStubs.Proofs.Xml.Name

/-!
The elements of a document in the order in which they begin, each with the element around it, and
those right inside an element.
-/

namespace ApiStubs.Xml

-- The elements right inside an element.
def Element.elements (e : Element) : List Element :=
  e.children.filterMap fun
    | .element tag children => some ⟨tag, children⟩
    | _ => none

theorem Element.childrenNamed_eq_filter (e : Element) (name : String) :
    e.childrenNamed name = e.elements.filter (·.name = name) := by
  rw [childrenNamed, elements, List.filter_filterMap]
  congr
  funext n
  cases n
  case element tag children =>
    by_cases hn : tag.name.localName = name <;> simp [Element.name, Option.filter, hn]
  all_goals rfl

theorem Element.mem_childrenNamed {e c : Element} {name : String} :
    c ∈ e.childrenNamed name ↔ c ∈ e.elements ∧ c.name = name := by
  rw [childrenNamed_eq_filter, List.mem_filter, decide_eq_true_iff]

-- An element at a place of a document. There is no element around the root element.
structure Occurrence where
  outer : Option Element := none
  element : Element
  deriving Repr, Inhabited

mutual

-- The elements at and below a node with an element around it.
def Node.occurrences (outer : Option Element) : Node → List Occurrence
  | .element tag children =>
    ⟨outer, ⟨tag, children⟩⟩ :: Node.occurrencesOfList (some ⟨tag, children⟩) children
  | .text _ | .comment _ | .instruction .. => []

def Node.occurrencesOfList (outer : Option Element) : List Node → List Occurrence
  | [] => []
  | n :: ns => n.occurrences outer ++ Node.occurrencesOfList outer ns

end

def Document.occurrences (d : Document) : List Occurrence :=
  Node.occurrencesOfList none d.children

mutual

theorem Node.tags_occurrences (outer : Option Element) :
    (n : Node) → (n.occurrences outer).map (·.element.tag) = n.tags
  | .element tag children => by
    simp [Node.occurrences, Node.tags, Node.tags_occurrencesOfList _ children]
  | .text _ | .comment _ | .instruction .. => by simp [Node.occurrences, Node.tags]

theorem Node.tags_occurrencesOfList (outer : Option Element) :
    (ns : List Node) → (Node.occurrencesOfList outer ns).map (·.element.tag) = Node.tagsOfList ns
  | [] => by simp [Node.occurrencesOfList, Node.tagsOfList]
  | n :: ns => by
    simp [Node.occurrencesOfList, Node.tagsOfList, Node.tags_occurrences outer n,
      Node.tags_occurrencesOfList outer ns]

end

mutual

-- What is below an element of a tree is in the tree.
theorem Node.mem_occurrences_of_inner {o i : Occurrence}
    (hi : i ∈ Node.occurrencesOfList (some o.element) o.element.children) {outer : Option Element} :
    (n : Node) → o ∈ n.occurrences outer → i ∈ n.occurrences outer
  | .element tag children, ho => by
    rw [Node.occurrences] at ho ⊢
    cases ho
    case head    => exact List.mem_cons_of_mem _ hi
    case tail ho =>
      exact List.mem_cons_of_mem _ (Node.mem_occurrencesOfList_of_inner hi children ho)
  | .text _, ho | .comment _, ho | .instruction .., ho => by
    simp [Node.occurrences] at ho

theorem Node.mem_occurrencesOfList_of_inner {o i : Occurrence}
    (hi : i ∈ Node.occurrencesOfList (some o.element) o.element.children) {outer : Option Element} :
    (ns : List Node) → o ∈ Node.occurrencesOfList outer ns → i ∈ Node.occurrencesOfList outer ns
  | [], ho => by
    simp [Node.occurrencesOfList] at ho
  | n :: ns, ho => by
    rw [Node.occurrencesOfList] at ho ⊢
    cases List.mem_append.mp ho
    case inl ho => exact List.mem_append_left _ (Node.mem_occurrences_of_inner hi n ho)
    case inr ho => exact List.mem_append_right _ (Node.mem_occurrencesOfList_of_inner hi ns ho)

end

theorem Node.occurrencesOfList_eq_flatMap (outer : Option Element) (ns : List Node) :
    occurrencesOfList outer ns = ns.flatMap (occurrences outer) := by
  induction ns
  case nil          => simp [occurrencesOfList]
  case cons n ns hi => simp [occurrencesOfList, hi]

theorem Node.mem_occurrencesOfList_of_elements {e c : Element} (h : c ∈ e.elements) :
    ⟨some e, c⟩ ∈ Node.occurrencesOfList (some e) e.children := by
  have ⟨n, hn, hc⟩ := List.mem_filterMap.mp h
  rw [occurrencesOfList_eq_flatMap]
  apply List.mem_flatMap.mpr ⟨n, hn, ?_⟩
  cases n
  case element tag children =>
    cases hc
    simp [Node.occurrences]
  all_goals cases hc

theorem Document.mem_tags_of_mem_occurrences {d : Document} {o : Occurrence}
    (h : o ∈ d.occurrences) : o.element.tag ∈ Node.tagsOfList d.children :=
  Node.tags_occurrencesOfList none d.children ▸ List.mem_map_of_mem h

theorem Document.mem_tags_of_mem_inner {d : Document} {o : Occurrence} {tag : Tag}
    (ho : o ∈ d.occurrences) (h : tag ∈ Node.tagsOfList o.element.children) :
    tag ∈ Node.tagsOfList d.children := by
  rw [← Node.tags_occurrencesOfList (some o.element)] at h
  obtain ⟨i, hi, rfl⟩ := List.mem_map.mp h
  exact mem_tags_of_mem_occurrences (Node.mem_occurrencesOfList_of_inner hi d.children ho)

end ApiStubs.Xml
