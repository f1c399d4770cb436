import ApiStubs.Xml.Error
import ApiStubs.Xml.Tree

/-!
Scopes: which namespace a label stands for where. `Scope.enter` turns the start tag that is written
into the one that is meant.
-/

namespace ApiStubs.Xml

-- The declarations that hold at a place of a document.
structure Scope where
  -- The namespace of element names without a label.
  unlabelled : Option String := none
  -- The declarations of labels, element by element, the nearest one first.
  labels : List Labels := []
  deriving DecidableEq, Repr, Inhabited

-- The one label that needs no declaration.
def builtInLabel : String × String :=
  ("xml", "http://www.w3.org/XML/1998/namespace")

namespace Scope

-- The name that is meant by a written one; `unlabelled` is the namespace of names without a label.
def resolve (labels : List Labels) (unlabelled : Option String) (name : WrittenName) :
    Except Error Name :=
  match name.label with
  | none => .ok ⟨unlabelled, none, name.localName⟩
  | some label =>
    match labels.flatten.find? (·.1 = label) with
    | some (_, space) => .ok ⟨some space, some label, name.localName⟩
    | none => .error (.undeclaredLabel label)

def labelsOf (attributes : List (WrittenName × String)) : Labels :=
  attributes.filterMap fun (name, value) =>
    if name.label = some "xmlns" then some (name.localName, value) else none

-- The namespaces that attributes declare for names without a label.
def unlabelledOf (attributes : List (WrittenName × String)) : List String :=
  attributes.filterMap fun (name, value) =>
    if name.label ≠ some "xmlns" ∧ name.localName = "xmlns" then some value else none

-- The attributes that declare nothing.
def plainOf (attributes : List (WrittenName × String)) : List (WrittenName × String) :=
  attributes.filter fun (name, _) => name.label ≠ some "xmlns" ∧ name.localName ≠ "xmlns"

-- Whether an attribute is kept before another one: those without a label first, then by label,
-- then by name.
def sortsBefore (a b : WrittenName × String) : Bool :=
  match a.1.label, b.1.label with
  | none, none => decide (a.1.localName ≤ b.1.localName)
  | none, some _ => true
  | some _, none => false
  | some x, some y => decide (x < y) || (x == y && decide (a.1.localName ≤ b.1.localName))

-- Adds an attribute behind the others, of which one that means the same name is dropped.
def putAttribute (new : Attribute) (attributes : List Attribute) : List Attribute :=
  attributes.filter (fun a => a.name.space ≠ new.name.space ∨ a.name.localName ≠ new.name.localName)
    ++ [new]

-- The labels that an element declares for its content: the root element always the built-in one.
def handOn (scope : Scope) (labels : Labels) : Labels :=
  if scope.labels.isEmpty then builtInLabel :: labels.filter (·.1 ≠ builtInLabel.1) else labels

-- The start tag that is meant by a written one, and the scope of the element's content.
def enter (scope : Scope) (name : WrittenName) (attributes : List (WrittenName × String)) :
    Except Error (Tag × Scope) := do
  if ¬(attributes.map (·.1)).Nodup then throw .duplicateAttribute
  let labels := labelsOf attributes
  if labels.any (·.2.isEmpty) then throw .emptyNamespace
  let given ← match unlabelledOf attributes with
    | [] => pure none
    | [space] => pure (some space)
    | _ => throw .duplicateLabel
  let near := labels :: scope.labels
  let meant ← (plainOf attributes).mergeSort sortsBefore |>.mapM fun (written, value) => do
    return Attribute.mk (← resolve (near ++ [[builtInLabel]]) none written) value
  let own := given.map (fun space => if space = "" then none else some space)
  let meantName ← resolve near (own.getD scope.unlabelled) name
  let inner := scope.handOn labels :: scope.labels
  let tag : Tag := ⟨meantName, meant.foldl (fun kept a => putAttribute a kept) [], inner⟩
  -- Only an element without a label hands its declaration on, and only one that names a namespace.
  let handedOn := if name.label.isSome then none else own.getD none
  return (tag, ⟨handedOn <|> scope.unlabelled, inner⟩)

end Scope
end ApiStubs.Xml
