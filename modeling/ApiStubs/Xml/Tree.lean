import ApiStubs.Xml.Name

/-!
Documents as trees, and what is read off an element: its name, attributes, children and text.
-/

namespace ApiStubs.Xml

structure Attribute where
  name : Name
  value : String
  deriving DecidableEq, Repr, Inhabited

-- Labels with the namespaces that they stand for.
abbrev Labels := List (String × String)

-- What a start tag says about its element.
structure Tag where
  name : Name
  attributes : List Attribute := []
  -- The labels that stand for a namespace here, element by element, the nearest one first.
  labels : List Labels := []
  deriving DecidableEq, Repr, Inhabited

-- A node below the root. Text comes in pieces as it is written, and a piece may be empty.
inductive Node
  | element (tag : Tag) (children : List Node)
  | text (content : String)
  | comment (content : String)
  | instruction (target value : String)
  deriving Repr, Inhabited

structure Element where
  tag : Tag
  children : List Node
  deriving Repr, Inhabited

-- A root element between comments and instructions.
structure Document where
  prolog : List Node := []
  root : Element
  epilog : List Node := []
  deriving Repr, Inhabited

def Element.node (e : Element) : Node :=
  .element e.tag e.children

def Document.children (d : Document) : List Node :=
  d.prolog ++ d.root.node :: d.epilog

mutual

-- The text of a node and of all below it, comments and instructions left out.
def Node.textChars : Node → List Char
  | .element _ children => Node.textOfList children
  | .text content => content.toList
  | .comment _ | .instruction .. => []

def Node.textOfList : List Node → List Char
  | [] => []
  | n :: ns => n.textChars ++ Node.textOfList ns

end

theorem Node.textOfList_eq_flatMap (ns : List Node) :
    Node.textOfList ns = ns.flatMap Node.textChars := by
  induction ns with
  | nil => rfl
  | cons n ns ih => simp [textOfList, ih]

namespace Element

def name (e : Element) : String :=
  e.tag.name.localName

def text (e : Element) : String :=
  String.ofList (Node.textOfList e.children)

-- The element children of one name, whatever their namespaces.
def childrenNamed (e : Element) (name : String) : List Element :=
  e.children.filterMap fun
    | .element tag children => if tag.name.localName = name then some ⟨tag, children⟩ else none
    | _ => none

def child? (e : Element) (name : String) : Option Element :=
  (e.childrenNamed name).head?

-- The value of an attribute without a namespace.
def attribute? (e : Element) (name : String) : Option String :=
  (e.tag.attributes.find? fun a => a.name.space = none ∧ a.name.localName = name).map (·.value)

end Element
end ApiStubs.Xml
