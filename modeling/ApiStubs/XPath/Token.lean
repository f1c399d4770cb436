import ApiStubs.Number.Reading
import ApiStubs.Text.Split
import ApiStubs.XPath.Error
import ApiStubs.XPath.Expr
import ApiStubs.Xml.Name

/-!
The words and signs that the text of a query consists of. `Token.scan` takes a query's text apart
and writes its abbreviations out.
-/

namespace ApiStubs.XPath

open Text (dropWord? cutChars?)
open Xml (isSpace WrittenName takeName takeWrittenName)

inductive Token
  | slash
  | doubleSlash
  | dot
  | doubleDot
  | atSign
  | comma
  | openParen
  | closeParen
  | openBracket
  | closeBracket
  | operator (op : Operator)
  | literal (text : String)
  | number (value : Float)
  | axis (axis : Axis)
  | test (test : NodeTest)
  | function (name : String)
  | reference (name : String)
  deriving Repr, Inhabited

namespace Token

-- Signs. Of two signs that both fit the one that is listed first is meant.
def signs : List (String × Token) :=
  [("<=", operator .lessEqual), (">=", operator .greaterEqual), ("!=", operator .unequal),
    ("//", doubleSlash), ("..", doubleDot), ("/", slash), ("(", openParen), (")", closeParen),
    ("[", openBracket), ("]", closeBracket), ("@", atSign), ("+", operator .plus),
    ("-", operator .minus), ("|", operator .union), ("=", operator .equal), ("<", operator .less),
    (">", operator .greater), (",", comma)]

-- Operators that are also names or name tests.
def operatorWords : List (String × Token) :=
  [("and", operator .and), ("or", operator .or), ("mod", operator .modulo),
    ("div", operator .divide), ("*", operator .times)]

-- Axes with the colons that make them ones.
def axisWords : List (String × Token) :=
  [("ancestor-or-self::", axis .ancestorOrSelf), ("ancestor::", axis .ancestor),
    ("attribute::", axis .attributes), ("child::", axis .child),
    ("descendant-or-self::", axis .descendantOrSelf), ("descendant::", axis .descendant),
    ("following-sibling::", axis .followingSibling), ("following::", axis .following),
    ("namespace::", axis .namespaces), ("parent::", axis .parent),
    ("preceding-sibling::", axis .precedingSibling), ("preceding::", axis .preceding),
    ("self::", axis .self)]

def testWords : List (String × Token) :=
  [("node()", test .anyNode), ("text()", test .text), ("comment()", test .comment)]

-- The first of some words that a text begins with.
def word? (words : List (String × Token)) (s : List Char) : Option (Token × List Char) :=
  words.findSome? fun (word, token) => (dropWord? word.toList s).map (token, ·)

def literal? : List Char → Option (Token × List Char)
  | '"' :: s => (cutChars? '"' s).map fun (text, s) => (literal (String.ofList text), s)
  | '\'' :: s => (cutChars? '\'' s).map fun (text, s) => (literal (String.ofList text), s)
  | _ => none

-- Digits with at most one point among them.
def number? (s : List Char) : Option (Token × List Char) :=
  let whole := s.takeWhile Char.isDigit
  match s.dropWhile Char.isDigit with
  | '.' :: s =>
    let fraction := s.takeWhile Char.isDigit
    if whole.isEmpty ∧ fraction.isEmpty then none
    else some (number (Number.ofParts whole fraction 0), s.dropWhile Char.isDigit)
  | s => if whole.isEmpty then none else some (number (Number.ofParts whole [] 0), s)

def dot? : List Char → Option (Token × List Char)
  | '.' :: s => some (dot, s)
  | _ => none

-- A test for instructions, its target between quotes or absent.
def instructionTest? (s : List Char) : Option (Token × List Char) := do
  let s ← dropWord? "processing-instruction(".toList s
  match literal? s with
  | some (literal target, ')' :: s) => some (test (.instruction (some target)), s)
  | _ =>
    match s with
    | ')' :: s => some (test (.instruction none), s)
    | _ => none

def writtenText (name : WrittenName) : String :=
  match name.label with
  | some label => label ++ ":" ++ name.localName
  | none => name.localName

-- A name directly before a parenthesis.
def function? (s : List Char) : Option (Token × List Char) :=
  match takeWrittenName s with
  | some (name, '(' :: s) => some (function (writtenText name), '(' :: s)
  | _ => none

def nameTest? (s : List Char) : Option (Token × List Char) :=
  match s with
  | '*' :: s => some (test (.name none none), s)
  | _ =>
    match takeName s with
    | some (label, ':' :: '*' :: s) => some (test (.name (some (String.ofList label)) none), s)
    | _ =>
      (takeWrittenName s).map fun (name, s) => (test (.name name.label (some name.localName)), s)

def variableName? : List Char → Option (Token × List Char)
  | '$' :: s => (takeWrittenName s).map fun (name, s) => (reference (writtenText name), s)
  | _ => none

-- Whether a word that can be an operator is one behind this token.
def endsOperand : Token → Bool
  | atSign | axis _ | openParen | openBracket | slash | doubleSlash | operator _ => false
  | _ => true

def next? (operatorFits : Bool) (s : List Char) : Option (Token × List Char) :=
  word? signs s <|> literal? s <|> number? s <|> dot? s <|>
    (if operatorFits then word? operatorWords s else none) <|> word? axisWords s <|>
    word? testWords s <|> instructionTest? s <|> function? s <|> nameTest? s <|> variableName? s

-- The tokens of a text, of which there are at most as many as the first argument says.
def scanUpTo : Nat → Bool → List Char → Except Error (List Token)
  | fuel, operatorFits, s =>
    match s.dropWhile isSpace with
    | [] => .ok []
    | s =>
      match fuel, next? operatorFits s with
      | fuel + 1, some (token, s) => (token :: ·) <$> scanUpTo fuel token.endsOperand s
      | _, _ => .error .token

def written : Token → List Token
  | doubleSlash => [slash, axis .descendantOrSelf, test .anyNode, slash]
  | dot => [axis .self, test .anyNode]
  | doubleDot => [axis .parent, test .anyNode]
  | atSign => [axis .attributes]
  | token => [token]

-- The tokens of a text, abbreviations written out.
def scan (s : List Char) : Except Error (List Token) :=
  (·.flatMap written) <$> scanUpTo s.length false s

end Token
end ApiStubs.XPath
