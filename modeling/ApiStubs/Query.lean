import ApiStubs.Error
import ApiStubs.XPath.Eval
import ApiStubs.XPath.Grammar
import ApiStubs.Xml.Document

/-!
Documents and queries on them, with the errors of a run.
-/

namespace ApiStubs

def readDocument (text : String) : Except Error Xml.Document :=
  (Xml.Document.read text).mapError fun e => .malformed e.message

-- The elements that a query comes to, in document order. Other nodes are left out.
def select (d : Xml.Document) (query : String) : Except Error (List Xml.Element) :=
  match XPath.Expr.read query >>= (·.evalAt d) with
  | .error e => .error (.query query e.message)
  | .ok (.nodes rows) =>
    .ok (rows.filterMap fun r =>
      match r.item with
      | .element e => some e
      | _ => none)
  | .ok v => .error (.query query ("expected a node-set, got " ++ v.shown))

end ApiStubs
