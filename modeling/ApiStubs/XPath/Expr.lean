/-!
Expressions: what a query says.
-/

namespace ApiStubs.XPath

inductive Axis
  | ancestor
  | ancestorOrSelf
  | attributes
  | child
  | descendant
  | descendantOrSelf
  | following
  | followingSibling
  | namespaces
  | parent
  | preceding
  | precedingSibling
  | self
  deriving DecidableEq, Repr, Inhabited

-- Whether the first node on the axis is the last one in the document.
def Axis.isReverse : Axis → Bool
  | ancestor | ancestorOrSelf | attributes | preceding | precedingSibling => true
  | _ => false

inductive NodeTest
  | anyNode
  | text
  | comment
  | instruction (target : Option String)
  -- Without a local name, every one is meant.
  | name (label localName : Option String)
  deriving DecidableEq, Repr, Inhabited

inductive Operator
  | or
  | and
  | equal
  | unequal
  | less
  | lessEqual
  | greater
  | greaterEqual
  | plus
  | minus
  | times
  | divide
  | modulo
  | union
  deriving DecidableEq, Repr, Inhabited

inductive Expr
  | root
  | context
  | step (origin : Expr) (axis : Axis) (test : NodeTest) (predicates : List Expr)
  | filter (origin : Expr) (predicate : Expr)
  | binary (op : Operator) (left right : Expr)
  | negate (e : Expr)
  | literal (text : String)
  | number (value : Float)
  | reference (name : String)
  | call (name : String) (arguments : List Expr)
  deriving Repr, Inhabited

end ApiStubs.XPath
