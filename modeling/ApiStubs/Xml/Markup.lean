import ApiStubs.Escape
import ApiStubs.Xml.Tree

/-!
The content of an element written as markup again, namespaces left out.
-/

namespace ApiStubs.Xml

-- Attributes in the order in which they are written: by their names without namespaces.
def sortAttributes (attributes : List Attribute) : List Attribute :=
  attributes.mergeSort fun a b => decide (a.name.localName ≤ b.name.localName)

def attributeMarkup (a : Attribute) : List Char :=
  ' ' :: a.name.localName.toList ++ '=' :: '"' :: Escape.htmlChars a.value.toList ++ ['"']

mutual

-- A node as markup. Comments and instructions are left out, yet an element that holds one is not
-- written as an empty one.
def Node.markup : Node → List Char
  | .element tag children =>
    let name := tag.name.localName.toList
    let start := '<' :: name ++ (sortAttributes tag.attributes).flatMap attributeMarkup
    if children.isEmpty then start ++ ['/', '>']
    else start ++ '>' :: Node.markupOfList children ++ '<' :: '/' :: name ++ ['>']
  | .text content => Escape.contentChars content.toList
  | .comment _ | .instruction .. => []

def Node.markupOfList : List Node → List Char
  | [] => []
  | n :: ns => n.markup ++ Node.markupOfList ns

end

theorem Node.markupOfList_eq_flatMap (ns : List Node) :
    Node.markupOfList ns = ns.flatMap Node.markup := by
  induction ns with
  | nil => rfl
  | cons n ns ih => simp [markupOfList, ih]

-- The content of an element as markup, without the element's own tags.
def Element.innerMarkup (e : Element) : String :=
  String.ofList (Node.markupOfList e.children)

end ApiStubs.Xml
