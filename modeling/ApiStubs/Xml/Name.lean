/-!
Names of elements and attributes, as they are written and as they are meant.
-/

namespace ApiStubs.Xml

-- The white space between the parts of a tag.
def isSpace (c : Char) : Bool :=
  c == ' ' || c == '\t' || c == '\r' || c == '\n'

def within (c : Char) (ranges : List (Nat × Nat)) : Bool :=
  ranges.any fun (first, last) => first ≤ c.toNat && c.toNat ≤ last

-- The characters that a name without a colon may begin with.
def isNameStart (c : Char) : Bool :=
  within c [(0x41, 0x5A), (0x5F, 0x5F), (0x61, 0x7A), (0xC0, 0xD6), (0xD8, 0xF6), (0xF8, 0x2FF),
    (0x370, 0x37D), (0x37F, 0x1FFF), (0x200C, 0x200D), (0x2070, 0x218F), (0x2C00, 0x2FEF),
    (0x3001, 0xD7FF), (0xF900, 0xFDCF), (0xFDF0, 0xFFFD), (0x10000, 0xEFFFF)]

-- The characters that a name without a colon is made of.
def isNameChar (c : Char) : Bool :=
  isNameStart c ||
    within c [(0x2D, 0x2E), (0x30, 0x39), (0xB7, 0xB7), (0x300, 0x36F), (0x203F, 0x2040)]

-- The name without a colon that a text begins with, and what follows it.
def takeName : List Char → Option (List Char × List Char)
  | [] => none
  | c :: s =>
    if isNameStart c then some (c :: s.takeWhile isNameChar, s.dropWhile isNameChar) else none

-- The name, colons included, that a text begins with, and what follows it.
def takeColonName : List Char → Option (List Char × List Char)
  | [] => none
  | c :: s =>
    let part c := isNameChar c || c == ':'
    if isNameStart c || c == ':' then some (c :: s.takeWhile part, s.dropWhile part) else none

-- A name as it is written: before the colon a label that stands for a namespace.
structure WrittenName where
  label : Option String
  localName : String
  deriving DecidableEq, Repr, Inhabited

-- The written name that a text begins with, and what follows it.
def takeWrittenName (s : List Char) : Option (WrittenName × List Char) :=
  match takeName s with
  | none => none
  | some (first, rest) =>
    let plain := some (⟨none, String.ofList first⟩, rest)
    match rest with
    | ':' :: rest =>
      match takeName rest with
      | some (second, rest) => some (⟨some (String.ofList first), String.ofList second⟩, rest)
      | none => plain
    | _ => plain

-- A name as it is meant. The label is kept to write the name again.
structure Name where
  space : Option String := none
  label : Option String := none
  localName : String
  deriving DecidableEq, Repr, Inhabited

end ApiStubs.Xml
