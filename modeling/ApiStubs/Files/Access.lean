import ApiStubs.Files.Tree
import ApiStubs.Text.Split

/-!
Reading and writing the file that a path leads to. A write that fails does so before it touches
anything.
-/

namespace ApiStubs

-- Why a path leads to no file of the kind that is needed.
inductive FileFault
  | notFound
  | isDirectory
  | notDirectory
  | nameTooLong
  | notText
  | nulInPath
  deriving DecidableEq, Repr, Inhabited

def FileFault.message : FileFault → String
  | notFound => "No such file or directory (os error 2)"
  | isDirectory => "Is a directory (os error 21)"
  | notDirectory => "Not a directory (os error 20)"
  | nameTooLong => "File name too long (os error 36)"
  | notText => "stream did not contain valid UTF-8"
  | nulInPath => "file name contained an unexpected NUL byte"

-- A path taken apart at its slashes.
structure Path where
  -- Whether it starts at the top instead of the working directory.
  absolute : Bool
  -- The names of the directories on the way.
  parents : List String
  -- The name at the end, which a path of slashes alone does not have.
  last : Option String
  -- Whether a slash follows the name at the end.
  slashed : Bool
  deriving DecidableEq, Repr, Inhabited

namespace Path

-- The most bytes that a name may have.
def maxName : Nat := 255

-- The most bytes that a path may have.
def maxPath : Nat := 4095

def read (text : String) : Except FileFault Path :=
  let s := text.toList
  if '\x00' ∈ s then .error .nulInPath
  else if s.isEmpty then .error .notFound
  else if maxPath < text.utf8ByteSize then .error .nameTooLong
  else
    let names := ((Text.splitChars '/' s).filter fun part => !part.isEmpty).map String.ofList
    .ok ⟨s.head? == some '/', names.dropLast, names.getLast?, s.getLast? == some '/'⟩

end Path

namespace FileTree

-- The place that a name leads to from a directory.
def enter (here : Place) (name : String) : Except FileFault Place :=
  if name = "." then .ok here
  else if name = ".." then .ok here.dropLast
  else if Path.maxName < name.utf8ByteSize then .error .nameTooLong
  else .ok (here ++ [name])

def descend (t : FileTree) (here : Place) : List String → Except FileFault Place
  | [] => .ok here
  | name :: names => do
    let next ← enter here name
    match t.get? next with
    | none => .error .notFound
    | some (.file _) => .error .notDirectory
    | some .directory => t.descend next names

def parentOf (t : FileTree) (path : Path) : Except FileFault Place :=
  t.descend (if path.absolute then [] else t.here) path.parents

def read (t : FileTree) (text : String) : Except FileFault ByteArray := do
  let path ← Path.read text
  let parent ← t.parentOf path
  match path.last with
  | none => .error .isDirectory
  | some name =>
    match t.get? (← enter parent name) with
    | none => .error .notFound
    | some .directory => .error .isDirectory
    | some (.file content) => if path.slashed then .error .notDirectory else .ok content

def readText (t : FileTree) (text : String) : Except FileFault String := do
  match String.fromUTF8? (← t.read text) with
  | some content => .ok content
  | none => .error .notText

-- The place that a file is written to.
def placeToWrite (t : FileTree) (text : String) : Except FileFault Place := do
  let path ← Path.read text
  let parent ← t.parentOf path
  match path.last with
  | none => .error .isDirectory
  | some name =>
    if name = "." ∨ name = ".." ∨ path.slashed then .error .isDirectory
    else
      let place ← enter parent name
      match t.get? place with
      | some .directory => .error .isDirectory
      | _ => .ok place

-- Writes a text in the place of whatever the file holds.
def writeText (t : FileTree) (text content : String) : Except FileFault FileTree := do
  return t.set (← t.placeToWrite text) (.file content.toUTF8)

def isFile (t : FileTree) (text : String) : Bool :=
  (t.read text).toOption.isSome

end FileTree
end ApiStubs
