import ApiStubs.Entry
import ApiStubs.Error
import ApiStubs.Text.Blank
import ApiStubs.Xml.Markup

/-!
Entries read from elements. Whatever an entry depends on has to be there, also in signatures that
are not rendered.
-/

namespace ApiStubs

open Xml (Element)

-- The value of an attribute that has to be there.
def required (e : Element) (name entry : String) : Except Error String :=
  match e.attribute? name with
  | some value => .ok value
  | none => .error (.missingAttribute e.name name entry)

-- The trimmed markup of the first child element of one name.
def markupOf (e : Element) (name : String) : String :=
  ((e.child? name).map fun c => Text.trim c.innerMarkup).getD ""

-- The types of a parameter: those of its attribute, or else those of its children.
def typesOf? (e : Element) : Option String :=
  match e.attribute? "type" with
  | some types => some types
  | none =>
    match (e.childrenNamed "type").filterMap (·.attribute? "name") with
    | [] => none
    | names => some (", ".intercalate names)

-- Reads a parameter. Its name has to be more than a qualifier.
def RawParameter.ofElement (entry : String) (e : Element) : Except Error RawParameter := do
  let name ← required e "name" entry
  if stripQualifiers name = "" then throw (.missingAttribute "argument" "name" entry)
  match typesOf? e with
  | none => throw (.missingAttribute "argument" "type" entry)
  | some types => return ⟨name, types, markupOf e "desc"⟩

def Signature.ofElement (entry : String) (e : Element) : Except Error Signature := do
  let added := ((e.child? "added").map fun a => Text.trim a.text).filter (· ≠ "")
  let parameters ← (e.childrenNamed "argument").mapM (RawParameter.ofElement entry)
  return ⟨added, parameters⟩

def Example.ofElement (entry : String) (e : Element) : Except Error Example :=
  match e.child? "code" with
  | none => .error (.missingElement "example" "code" entry)
  | some code => .ok ⟨markupOf e "desc", Text.trim code.text⟩

-- Reads an entry. Its signatures come before its examples, wherever they are in the document.
def Entry.ofElement (e : Element) : Except Error Entry := do
  let name ← required e "name" "?"
  let kindName ← required e "type" name
  let kind ← match EntryKind.ofName? kindName with
    | some kind => pure kind
    | none => throw (.unsupported name kindName)
  let signatures ← (e.childrenNamed "signature").mapM (Signature.ofElement name)
  let examples ← (e.childrenNamed "example").mapM (Example.ofElement name)
  return {
    name, kind, signatures, examples
    returns := (e.attribute? "return").getD ""
    added := (signatures.head?.bind (·.added)).getD firstVersion
    short := markupOf e "desc"
    long := markupOf e "longdesc" }

end ApiStubs
