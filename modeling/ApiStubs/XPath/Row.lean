import ApiStubs.XPath.Expr
import ApiStubs.Xml.Tree

/-!
The nodes of a document in document order, each with its place, and the axes as relations between
places.
-/

namespace ApiStubs.XPath

open Xml (Node Tag Element Attribute Document)

inductive Item
  | root (text : String)
  | element (e : Element)
  | attribute (a : Attribute)
  -- A label that stands for a namespace at an element.
  | label (label space : String)
  | text (content : String)
  | comment (content : String)
  | instruction (target value : String)
  deriving Repr, Inhabited

structure Row where
  position : Nat
  -- The positions of the nodes around it, the nearest first.
  ancestors : List Nat
  item : Item
  deriving Repr, Inhabited

-- The labels that hold at an element, each with its nearest namespace.
def labelItems (tag : Tag) : List Item :=
  let nearest := tag.labels.flatten.foldl (fun kept (label, space) =>
    if label = "xml" ∨ kept.any (·.1 = label) then kept else kept ++ [(label, space)]) []
  (("xml", "http://www.w3.org/XML/1998/namespace") :: nearest).map fun (label, space) =>
    .label label space

-- The attributes of an element as they are counted in a document, the last one first.
def attributeItems (tag : Tag) : List Item :=
  tag.attributes.reverse.map .attribute

def place (position : Nat) (ancestors : List Nat) (items : List Item) : List Row :=
  items.zipIdx position |>.map fun (item, position) => ⟨position, ancestors, item⟩

mutual

-- The rows of a node and of all below it, from a position on.
def rowsOfNode (position : Nat) (ancestors : List Nat) : Node → List Row
  | .element tag children =>
    let inside := position :: ancestors
    let items := attributeItems tag
    ⟨position, ancestors, .element ⟨tag, children⟩⟩ :: place (position + 1) inside items ++
      rowsOfList (position + 1 + items.length) inside children
  | .text content => [⟨position, ancestors, .text content⟩]
  | .comment content => [⟨position, ancestors, .comment content⟩]
  | .instruction target value => [⟨position, ancestors, .instruction target value⟩]

def rowsOfList (position : Nat) (ancestors : List Nat) : List Node → List Row
  | [] => []
  | n :: ns =>
    let first := rowsOfNode position ancestors n
    first ++ rowsOfList (position + first.length) ancestors ns

end

-- The root of a document, which has no row around it.
def rootRow (d : Document) : Row :=
  ⟨0, [], .root d.root.text⟩

-- The rows of all labels, element by element, from a position on.
def labelRows (position : Nat) : List Row → List Row
  | [] => []
  | r :: rest =>
    match r.item with
    | .element e =>
      let items := labelItems e.tag
      place position (r.position :: r.ancestors) items ++ labelRows (position + items.length) rest
    | _ => labelRows position rest

-- All nodes of a document, labels last.
def rowsOf (d : Document) : List Row :=
  let rows := rootRow d :: rowsOfList 1 [0] d.children
  rows ++ labelRows rows.length rows

namespace Row

-- Whether a node is in the content of its parent.
def isContent (r : Row) : Bool :=
  match r.item with
  | .attribute _ | .label .. => false
  | _ => true

def isParentOf (a b : Row) : Bool :=
  match b.ancestors with
  | [] => false
  | p :: _ => p == a.position

def isInside (b a : Row) : Bool :=
  b.ancestors.contains a.position

-- The place in the content of the document at which a node is.
def anchor (r : Row) : Nat :=
  if r.isContent then r.position else r.ancestors.headD r.position

def isSiblingOf (a b : Row) : Bool :=
  a.isContent && b.isContent && !a.ancestors.isEmpty && a.ancestors == b.ancestors

def text (r : Row) : String :=
  match r.item with
  | .root text => text
  | .element e => e.text
  | .attribute a => a.value
  | .label _ space => space
  | .text content => content
  | .comment content => content
  | .instruction _ value => value

end Row

-- Whether `b` is on the axis of `a`.
def Axis.relates (axis : Axis) (a b : Row) : Bool :=
  match axis with
  | self => b.position == a.position
  | child => a.isParentOf b && b.isContent
  | attributes => a.isParentOf b && (b.item matches .attribute _)
  | namespaces => a.isParentOf b && (b.item matches .label ..)
  | descendant => b.isInside a && b.isContent
  | descendantOrSelf => b.position == a.position || (b.isInside a && b.isContent)
  | parent => b.isParentOf a
  | ancestor => a.isInside b
  | ancestorOrSelf => b.position == a.position || a.isInside b
  | followingSibling => a.isSiblingOf b && a.position < b.position
  | precedingSibling => a.isSiblingOf b && b.position < a.position
  | following => a.anchor < b.position && !b.ancestors.contains a.anchor && b.isContent
  | preceding => b.position < a.anchor && !a.isInside b && b.isContent

end ApiStubs.XPath
