import ApiStubs.Xml.Scope
import ApiStubs.Xml.Token

/-!
Reading a document. `Document.read` scans a text and nests its pieces.
-/

namespace ApiStubs.Xml

open Text (dropWord?)

-- An element whose end is still to come, with its children so far, last one first.
structure OpenElement where
  written : WrittenName
  tag : Tag
  scope : Scope
  children : List Node := []

def OpenElement.add (e : OpenElement) (n : Node) : OpenElement :=
  { e with children := n :: e.children }

def OpenElement.close (e : OpenElement) : Element :=
  ⟨e.tag, e.children.reverse⟩

namespace Document

def openElement (scope : Scope) (name : WrittenName) (attributes : List (WrittenName × String)) :
    Except Error OpenElement := do
  let (tag, inner) ← scope.enter name attributes
  return ⟨name, tag, inner, []⟩

-- Reads up to the end of the outermost open element. The first argument is the innermost one, the
-- second holds those around it, from the inside out.
def readContent (e : OpenElement) (outer : List OpenElement) :
    List Token → Except Error (Element × List Token)
  | [] => .error .unclosedElement
  | .startTag name attributes :: rest => do
    readContent (← openElement e.scope name attributes) (e :: outer) rest
  | .emptyEnd :: rest =>
    match outer with
    | [] => .ok (e.close, rest)
    | o :: outer => readContent (o.add e.close.node) outer rest
  | .endTag name :: rest =>
    if name = e.written then
      match outer with
      | [] => .ok (e.close, rest)
      | o :: outer => readContent (o.add e.close.node) outer rest
    else .error .mismatchedEndTag
  | .text content :: rest => readContent (e.add (.text content)) outer rest
  | .data content :: rest => readContent (e.add (.text content)) outer rest
  | .comment content :: rest => readContent (e.add (.comment content)) outer rest
  | .instruction target value :: rest => readContent (e.add (.instruction target value)) outer rest
  | .documentType :: _ => .error .misplaced

def readEpilog : List Token → Except Error (List Node)
  | [] => .ok []
  | .comment content :: rest => (.comment content :: ·) <$> readEpilog rest
  | .instruction target value :: rest => (.instruction target value :: ·) <$> readEpilog rest
  | .text content :: rest =>
    if content.toList.all isSpace then readEpilog rest else .error .misplaced
  | _ => .error .misplaced

-- Reads a document after its declaration.
def readTokens : List Token → Except Error Document
  | [] => .error .missingRoot
  | .comment content :: rest => do
    let d ← readTokens rest
    return { d with prolog := .comment content :: d.prolog }
  | .instruction target value :: rest => do
    let d ← readTokens rest
    return { d with prolog := .instruction target value :: d.prolog }
  | .text content :: rest =>
    if content.toList.all isSpace then readTokens rest else .error .misplaced
  | .documentType :: rest => readTokens rest
  | .startTag name attributes :: rest => do
    let (root, rest) ← readContent (← openElement {} name attributes) [] rest
    return { root, epilog := ← readEpilog rest }
  | _ => .error .misplaced

-- One part of a declaration, its name given, with the spaces before it.
def declared? (name : String) (ok : List Char → Bool) (s : List Char) : Option (List Char) := do
  let s ← someSpaces? s
  let s ← dropWord? name.toList s
  let s ← equalsSign? s
  let (value, s) ← quoted? s
  if ok value then some s else none

def isVersion (s : List Char) : Bool :=
  match s with
  | '1' :: '.' :: digits => ¬digits.isEmpty ∧ digits.all Char.isDigit
  | _ => false

def isEncoding (s : List Char) : Bool :=
  match s with
  | c :: s => c.isAlpha && s.all fun c => c.isAlphanum || c == '.' || c == '_' || c == '-'
  | [] => false

def isYesOrNo (s : List Char) : Bool :=
  s == "yes".toList || s == "no".toList

-- What follows a declaration, the `<?xml` before it excepted.
def dropDeclaration? (s : List Char) : Option (List Char) := do
  let s ← declared? "version" isVersion s
  let s := (declared? "encoding" isEncoding s).getD s
  let s := (declared? "standalone" isYesOrNo s).getD s
  dropWord? "?>".toList (skipSpaces s)

-- Reads a document. A document type may not be the first thing in it.
def readChars (s : List Char) : Except Error Document :=
  match dropWord? "<!DOCTYPE".toList s with
  | some _ => .error .misplaced
  | none =>
    let body := (dropWord? "<?xml".toList s >>= dropDeclaration?).getD s
    Token.scan body >>= readTokens

def read (text : String) : Except Error Document :=
  readChars text.toList

end Document
end ApiStubs.Xml
