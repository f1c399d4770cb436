import ApiStubs.Xml.Markup

/-!
What the content of an element says once everything that markup leaves out is left out: comments,
instructions, namespaces, the order of the attributes, and the pieces in which a text is given.
-/

namespace ApiStubs.Xml

inductive Content
  | element (name : String) (attributes : List (String × String)) (children : List Content)
  | text (content : String)
  deriving Repr, Inhabited

namespace Content

-- A text in front of some content. It becomes one with a text that follows, and if there is nothing
-- in it, it is no content.
def consText (s : String) : List Content → List Content
  | .text t :: cs => .text (s ++ t) :: cs
  | cs => if s = "" then cs else .text s :: cs

-- Makes one text of texts that follow each other, and leaves out empty ones.
def merge : List Content → List Content
  | [] => []
  | .text s :: cs => consText s (merge cs)
  | .element name attributes children :: cs => .element name attributes children :: merge cs

theorem consText_empty (cs : List Content) : consText "" cs = cs := by
  cases cs
  case nil => rfl
  case cons c _ => cases c <;> simp [consText]

theorem consText_consText (s t : String) (cs : List Content) :
    consText s (consText t cs) = consText (s ++ t) cs := by
  cases cs
  case nil => by_cases ht : t = "" <;> simp [consText, ht]
  case cons c cs =>
    cases c
    case text => simp [consText, String.append_assoc]
    case element => by_cases ht : t = "" <;> simp [consText, ht]

theorem consText_cons_element (s name : String) (attributes : List (String × String))
    (children cs : List Content) :
    consText s (.element name attributes children :: cs) =
      consText s [] ++ .element name attributes children :: cs := by
  by_cases hs : s = "" <;> simp [consText, hs]

end Content

-- The attributes of a tag without their namespaces, in the order of their names. Those of one name
-- stay in the order in which they are given.
def Tag.sortedAttributes (tag : Tag) : List (String × String) :=
  tag.attributes.map (fun a => (a.name.localName, a.value)) |>.mergeSort
    fun a b => decide (a.1 ≤ b.1)

mutual

def Node.content : Node → List Content
  | .element tag children =>
    [.element tag.name.localName tag.sortedAttributes (Content.merge (Node.contentOfList children))]
  | .text content => [.text content]
  | .comment _ | .instruction .. => []

def Node.contentOfList : List Node → List Content
  | [] => []
  | n :: ns => n.content ++ Node.contentOfList ns

end

-- The content of an element, which is in normal form at every depth.
def Element.content (e : Element) : List Content :=
  Content.merge (Node.contentOfList e.children)

theorem sortAttributes_map (tag : Tag) :
    (sortAttributes tag.attributes).map (fun a => (a.name.localName, a.value)) =
      tag.sortedAttributes :=
  List.map_mergeSort fun _ _ _ _ => rfl

end ApiStubs.Xml
