/-!
Files and directories by their places.
-/

namespace ApiStubs

-- The names on the way from the top directory.
abbrev Place := List String

inductive FileNode
  | directory
  | file (content : ByteArray)
  deriving Inhabited

structure FileTree where
  nodes : List (Place × FileNode) := []
  here : Place := []
  deriving Inhabited

namespace FileTree

-- What is at a place. At the top there is always a directory.
def get? (t : FileTree) (place : Place) : Option FileNode :=
  if place = [] then some .directory else t.nodes.lookup place

-- Replaces the first node of a place in a list, or appends one.
def setNode (place : Place) (node : FileNode) : List (Place × FileNode) → List (Place × FileNode)
  | [] => [(place, node)]
  | (p, n) :: rest => if p = place then (p, node) :: rest else (p, n) :: setNode place node rest

theorem lookup_setNode (place p : Place) (node : FileNode) (nodes : List (Place × FileNode)) :
    (setNode place node nodes).lookup p = if p = place then some node else nodes.lookup p := by
  induction nodes with
  | nil => by_cases h : p = place <;> simp [setNode, List.lookup_cons, h, beq_eq_false_iff_ne.2]
  | cons e nodes ih =>
    obtain ⟨q, n⟩ := e
    by_cases hq : q = place <;> by_cases hp : p = place <;> by_cases h : p = q <;>
      simp_all [setNode, List.lookup_cons, beq_eq_false_iff_ne.2]

def set (t : FileTree) (place : Place) (node : FileNode) : FileTree :=
  { t with nodes := setNode place node t.nodes }

theorem get?_set_of_ne {t : FileTree} {place p : Place} {node : FileNode} (h : p ≠ place) :
    (t.set place node).get? p = t.get? p := by
  simp [get?, set, lookup_setNode, h]

theorem get?_set_self {t : FileTree} {place : Place} {node : FileNode} (h : place ≠ []) :
    (t.set place node).get? place = some node := by
  simp [get?, set, lookup_setNode, h]

-- Puts directories at all places on the way to a place and at the place itself.
def addDirectories (t : FileTree) (place : Place) : FileTree :=
  (List.range place.length).foldl (fun t i => t.set (place.take (i + 1)) .directory) t

-- Puts a file at a place, with directories on the way.
def addFile (t : FileTree) (place : Place) (content : ByteArray) : FileTree :=
  (t.addDirectories place.dropLast).set place (.file content)

-- Takes away what is at a place and below it.
def remove (t : FileTree) (place : Place) : FileTree :=
  { t with nodes := t.nodes.filter fun (p, _) => ¬place.isPrefixOf p }

def files (t : FileTree) : List (Place × ByteArray) :=
  t.nodes.filterMap fun (p, n) =>
    match n with
    | .directory => none
    | .file content => some (p, content)

-- The files that differ between two trees, with what they hold in the second one.
def changes (old new : FileTree) : List (Place × Option ByteArray) :=
  let before := old.files
  let after := new.files
  let changed := after.filter fun (p, content) =>
    (before.lookup p).map (·.data) ≠ some content.data
  changed.map (fun (p, c) => (p, some c)) ++
    (before.filter fun (p, _) => (after.lookup p).isNone).map fun (p, _) => (p, none)

end FileTree
end ApiStubs
