import ApiStubs.Number.Reading
import ApiStubs.Number.Written
import ApiStubs.Text.Blank
import ApiStubs.Text.Quoted
import ApiStubs.XPath.Row

/-!
What an expression comes to, and how one kind of value is taken for another.
-/

namespace ApiStubs.XPath

inductive Value
  -- Nodes in document order, each once.
  | nodes (rows : List Row)
  | boolean (b : Bool)
  | number (x : Float)
  | text (s : String)
  deriving Repr, Inhabited

def numberOfText (s : String) : Float :=
  (Number.read? (Text.trimChars s.toList)).getD (0.0 / 0.0)

def textOfNumber (x : Float) : String :=
  Number.write Number.plainStyle x

namespace Value

def textOfNodes (rows : List Row) : String :=
  (rows.head?.map Row.text).getD ""

def toText : Value → String
  | nodes rows => textOfNodes rows
  | boolean b => if b then "true" else "false"
  | number x => textOfNumber x
  | text s => s

def toNumber : Value → Float
  | nodes rows => numberOfText (textOfNodes rows)
  | boolean b => if b then 1.0 else 0.0
  | number x => x
  | text s => numberOfText s

def toBool : Value → Bool
  | nodes rows => !rows.isEmpty
  | boolean b => b
  | number x => x != 0.0 && !x.isNaN
  | text s => !s.isEmpty

def equals : Value → Value → Bool
  | nodes a, nodes b => a.any fun r => b.any fun s => r.text == s.text
  | nodes a, number x => a.any fun r => numberOfText r.text == x
  | number x, nodes b => b.any fun r => x == numberOfText r.text
  | nodes a, text s => a.any fun r => r.text == s
  | text s, nodes b => b.any fun r => s == r.text
  | a, b =>
    match a, b with
    | boolean _, _ | _, boolean _ => a.toBool == b.toBool
    | number _, _ | _, number _ => a.toNumber == b.toNumber
    | _, _ => a.toText == b.toText

-- A value that is no node-set, as messages show it.
def shown : Value → String
  | nodes rows => s!"Nodeset({rows.length})"
  | boolean b => if b then "Boolean(true)" else "Boolean(false)"
  | number x => "Number(" ++ Number.write Number.messageStyle x ++ ")"
  | text s => "String(" ++ Text.quote s ++ ")"

end Value
end ApiStubs.XPath
