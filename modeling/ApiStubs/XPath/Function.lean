import ApiStubs.Text.Split
import ApiStubs.XPath.Error
import ApiStubs.XPath.Value

/-!
The functions that expressions may call. Arguments are taken for the kind of value that is needed,
except that nothing else is taken for a node-set.
-/

namespace ApiStubs.XPath

-- Where an expression is evaluated: at a node that is one of several.
structure Context where
  row : Row
  position : Nat
  size : Nat
  deriving Repr, Inhabited

-- Rounds to the nearest whole number, a half upwards. Zero keeps the sign of the argument.
def roundHalfUp (x : Float) : Float :=
  let below := x.floor
  if x == below then x
  else
    let nearest := (2.0 * x - below).floor
    if (x < 0.0) != (nearest < 0.0) then -nearest else nearest

-- A text with its white space reduced to single spaces between words.
def normalizeSpace (s : List Char) : List Char :=
  let word (c : Char) : Bool := !Xml.isSpace c
  let words := s.splitBy fun a b => word a == word b
  [' '].intercalate (words.filter fun w => w.all word)

-- The character that stands for `c`: none if its place in the second list is missing.
def translateChar (source result : List Char) (c : Char) : List Char :=
  match source.idxOf? c with
  | none => [c]
  | some i => result[i]?.toList

-- The characters at the whole positions from `first` on and before `last`, counted from 1.
def slice (first last : Float) (s : List Char) : List Char :=
  (s.zipIdx 1).filterMap fun (c, i) =>
    let i := Float.ofNat i
    if first ≤ i && i < last then some c else none

-- The name of a node without its namespace.
def Row.localName (r : Row) : String :=
  match r.item with
  | .element e => e.name
  | .attribute a => a.name.localName
  | .label label _ => label
  | .instruction target _ => target
  | _ => ""

def Row.space (r : Row) : String :=
  match r.item with
  | .element e => e.tag.name.space.getD ""
  | .attribute a => a.name.space.getD ""
  | _ => ""

-- The labels that the nearest element declares which declares any for a namespace.
def nearestLabels (labels : List Xml.Labels) (space : String) : List String :=
  (labels.map fun declared => (declared.filter (·.2 = space)).map (·.1)).find? (· ≠ []) |>.getD []

-- A name with a label for its namespace, the written one if it is among the nearest.
def labelledName (labels : List Xml.Labels) (name : Xml.Name) : String :=
  match name.space.map (nearestLabels labels) |>.getD [] with
  | [] => name.localName
  | first :: rest =>
    let label := ((first :: rest).find? (some · = name.label)).getD first
    label ++ ":" ++ name.localName

-- The name of a node with a label that the element declares to which the node belongs.
def Row.labelledName (all : List Row) (r : Row) : String :=
  match r.item with
  | .element e => XPath.labelledName e.tag.labels e.tag.name
  | .attribute a =>
    match all.find? (·.isParentOf r) with
    | some ⟨_, _, .element e⟩ => XPath.labelledName e.tag.labels a.name
    | _ => a.name.localName
  | _ => r.localName

-- Calls of functions. Each function takes its arguments in a list.
def callFunction (all : List Row) (c : Context) (name : String) (arguments : List Value) :
    Except Error Value :=
  let count : Except Error Value := .error (.argumentCount name)
  let ofNode (f : Row → String) : Except Error Value :=
    match arguments with
    | [] => .ok (.text (f c.row))
    | [.nodes rows] => .ok (.text ((rows.head?.map f).getD ""))
    | [_] => .error .notNodes
    | _ => count
  let ofText (f : String → Value) : Except Error Value :=
    match arguments with
    | [] => .ok (f c.row.text)
    | [v] => .ok (f v.toText)
    | _ => count
  let ofTexts (f : List Char → List Char → Value) : Except Error Value :=
    match arguments with
    | [a, b] => .ok (f a.toText.toList b.toText.toList)
    | _ => count
  let ofNumber (f : Float → Float) : Except Error Value :=
    match arguments with
    | [v] => .ok (.number (f v.toNumber))
    | _ => count
  let ofNodes (f : List Row → Float) : Except Error Value :=
    match arguments with
    | [.nodes rows] => .ok (.number (f rows))
    | [_] => .error .notNodes
    | _ => count
  let constant (v : Value) : Except Error Value :=
    if arguments.isEmpty then .ok v else count
  let chars (s : List Char) : Value := .text (String.ofList s)
  match name with
  | "last" => constant (.number (.ofNat c.size))
  | "position" => constant (.number (.ofNat c.position))
  | "count" => ofNodes fun rows => .ofNat rows.length
  | "sum" => ofNodes fun rows => rows.foldl (fun x r => x + numberOfText r.text) 0.0
  | "local-name" => ofNode Row.localName
  | "namespace-uri" => ofNode Row.space
  | "name" => ofNode (Row.labelledName all)
  | "string" => ofText .text
  | "string-length" => ofText fun s => .number (.ofNat s.length)
  | "normalize-space" => ofText fun s => chars (normalizeSpace s.toList)
  | "concat" =>
    if arguments.length < 2 then count else .ok (.text (String.join (arguments.map Value.toText)))
  | "starts-with" => ofTexts fun s t => .boolean (t.isPrefixOf s)
  | "contains" => ofTexts fun s t => .boolean (Text.cutWord? t s).isSome
  | "substring-before" => ofTexts fun s t => chars ((Text.cutWord? t s).map (·.1) |>.getD [])
  | "substring-after" => ofTexts fun s t => chars ((Text.cutWord? t s).map (·.2) |>.getD [])
  | "substring" =>
    match arguments with
    | [s, first] =>
      let first := roundHalfUp first.toNumber
      .ok (chars (slice first (first + 1.0 / 0.0) s.toText.toList))
    | [s, first, size] =>
      let first := roundHalfUp first.toNumber
      .ok (chars (slice first (first + roundHalfUp size.toNumber) s.toText.toList))
    | _ => count
  | "translate" =>
    match arguments with
    | [s, source, result] =>
      .ok (chars (s.toText.toList.flatMap
        (translateChar source.toText.toList result.toText.toList)))
    | _ => count
  | "boolean" =>
    match arguments with
    | [v] => .ok (.boolean v.toBool)
    | _ => count
  | "not" =>
    match arguments with
    | [v] => .ok (.boolean !v.toBool)
    | _ => count
  | "true" => constant (.boolean true)
  | "false" => constant (.boolean false)
  | "number" =>
    match arguments with
    | [] => .ok (.number (numberOfText c.row.text))
    | [v] => .ok (.number v.toNumber)
    | _ => count
  | "floor" => ofNumber Float.floor
  | "ceiling" => ofNumber Float.ceil
  | "round" => ofNumber roundHalfUp
  | _ => .error (.unknownFunction name)

end ApiStubs.XPath
