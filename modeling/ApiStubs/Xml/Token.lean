import ApiStubs.Text.Split
import ApiStubs.Xml.Error
import ApiStubs.Xml.Name
import ApiStubs.Xml.Reference

/-!
The tags, texts and other pieces that the text of a document consists of. `Token.scan` takes a
document's text apart, the declaration at its start excepted.
-/

namespace ApiStubs.Xml

open Text (dropWord? cutWord? cutChars?)

inductive Token
  | startTag (name : WrittenName) (attributes : List (WrittenName × String))
  -- The end of an element that is closed where it begins.
  | emptyEnd
  | endTag (name : WrittenName)
  -- Text that is written as it is.
  | text (content : String)
  -- Text that is written as a reference or in a section.
  | data (content : String)
  | comment (content : String)
  | instruction (target value : String)
  | documentType
  deriving DecidableEq, Repr, Inhabited

def skipSpaces (s : List Char) : List Char :=
  s.dropWhile isSpace

def someSpaces? (s : List Char) : Option (List Char) :=
  match s with
  | c :: s => if isSpace c then some (skipSpaces s) else none
  | [] => none

def equalsSign? (s : List Char) : Option (List Char) :=
  match skipSpaces s with
  | '=' :: s => some (skipSpaces s)
  | _ => none

-- The text between the quotes that a text begins with, and what follows.
def quoted? : List Char → Option (List Char × List Char)
  | '"' :: s => cutChars? '"' s
  | '\'' :: s => cutChars? '\'' s
  | _ => none

namespace Token

-- Text up to markup, to a reference, or to the end of a section.
def takeText : List Char → List Char × List Char
  | [] => ([], [])
  | c :: s =>
    if c = '<' ∨ c = '&' ∨ (dropWord? "]]>".toList (c :: s)).isSome then ([], c :: s)
    else (c :: (takeText s).1, (takeText s).2)

-- One attribute with the spaces before it. `none` if there is no attribute.
def attribute? (s : List Char) : Option (Except Error ((WrittenName × String) × List Char)) :=
  match someSpaces? s >>= takeWrittenName with
  | none => none
  | some (name, s) =>
    match equalsSign? s >>= quoted? with
    | none => some (.error .attributeValue)
    | some (raw, s) =>
      if '<' ∈ raw then some (.error .attributeValue)
      else match expand? raw with
        | none => some (.error .reference)
        | some value => some (.ok ((name, String.ofList value), s))

def attributes : Nat → List Char → Except Error (List (WrittenName × String) × List Char)
  | 0, s => .ok ([], s)
  | fuel + 1, s =>
    match attribute? s with
    | none => .ok ([], s)
    | some (.error e) => .error e
    | some (.ok (a, s)) => do
      let (rest, s) ← attributes fuel s
      return (a :: rest, s)

-- A start tag, the `<` excepted.
def startTag? (s : List Char) : Except Error (List Token × List Char) :=
  match takeWrittenName s with
  | none => .error .startTag
  | some (name, s) => do
    let (atts, s) ← attributes s.length s
    match skipSpaces s with
    | '>' :: s => return ([startTag name atts], s)
    | '/' :: '>' :: s => return ([startTag name atts, emptyEnd], s)
    | _ => .error .startTag

-- An end tag, the `</` excepted.
def endTag? (s : List Char) : Except Error (List Token × List Char) :=
  match takeWrittenName s with
  | none => .error .endTag
  | some (name, s) =>
    match skipSpaces s with
    | '>' :: s => .ok ([endTag name], s)
    | _ => .error .endTag

def comment? (s : List Char) : Except Error (List Token × List Char) :=
  match cutWord? "--".toList s with
  | some (content, '>' :: s) => .ok ([comment (String.ofList content)], s)
  | _ => .error .comment

-- A section, the `<![CDATA[` excepted.
def dataSection? (s : List Char) : Except Error (List Token × List Char) :=
  match cutWord? "]]>".toList s with
  | some (content, s) => .ok ([data (String.ofList content)], s)
  | none => .error .dataSection

-- An instruction, the `<?` excepted.
def instruction? (s : List Char) : Except Error (List Token × List Char) :=
  match takeColonName s with
  | none => .error .instruction
  | some (target, s) =>
    if target.map Char.toLower = "xml".toList then .error .instruction
    else
      let value :=
        match someSpaces? s with
        | some s => cutWord? "?>".toList s
        | none => (dropWord? "?>".toList s).map (([], ·))
      match value with
      | some (value, s) => .ok ([instruction (String.ofList target) (String.ofList value)], s)
      | none => .error .instruction

-- What follows the place of an external document type, if one is given.
def dropExternalType (s : List Char) : List Char :=
  let external := do
    let s ← someSpaces? s
    let s ← dropWord? "SYSTEM".toList s
    let s ← someSpaces? s
    let (place, s) ← quoted? s
    if place.isEmpty ∨ '<' ∈ place ∨ '&' ∈ place then none else some s
  external.getD s

-- What follows the declarations between brackets, if there are any.
def dropInternalType (s : List Char) : List Char :=
  match skipSpaces s with
  | '[' :: inside =>
    match cutChars? ']' inside with
    | some (_, rest) => rest
    | none => s
  | _ => s

-- A document type, the `<!DOCTYPE` excepted.
def documentType? (s : List Char) : Except Error (List Token × List Char) :=
  match someSpaces? s >>= takeColonName with
  | none => .error .documentType
  | some (_, s) =>
    match skipSpaces (dropInternalType (dropExternalType s)) with
    | '>' :: s => .ok ([documentType], s)
    | _ => .error .documentType

-- A reference, the `&` excepted.
def reference? (s : List Char) : Except Error (List Token × List Char) :=
  match expandOne? s with
  | some (c, s) => .ok ([data (String.singleton c)], s)
  | none => .error .reference

-- Text that is written as it is.
def text? (s : List Char) : Except Error (List Token × List Char) :=
  match takeText s with
  | ([], _) => .error .sectionEndInText
  | (content, s) => .ok ([text (String.ofList content)], s)

-- Markup, the `<` excepted.
def markup? (s : List Char) : Except Error (List Token × List Char) :=
  match s with
  | '/' :: s => endTag? s
  | '?' :: s => instruction? s
  | '!' :: s =>
    match dropWord? "--".toList s with
    | some s => comment? s
    | none =>
      match dropWord? "[CDATA[".toList s with
      | some s => dataSection? s
      | none =>
        match dropWord? "DOCTYPE".toList s with
        | some s => documentType? s
        | none => .error .startTag
  | _ => startTag? s

def next? (s : List Char) : Except Error (List Token × List Char) :=
  match s with
  | '<' :: s => markup? s
  | '&' :: s => reference? s
  | _ => text? s

-- The pieces of a text, which are at most as many as the first argument says.
def scanUpTo : Nat → List Char → Except Error (List Token)
  | _, [] => .ok []
  | 0, _ :: _ => .error .misplaced
  | fuel + 1, s => do
    let (tokens, s) ← next? s
    let rest ← scanUpTo fuel s
    return tokens ++ rest

-- The pieces of a text. Each takes at least one character.
def scan (s : List Char) : Except Error (List Token) :=
  scanUpTo s.length s

end Token
end ApiStubs.Xml
