import ApiStubs.Proofs.XPath.Eval
import ApiStubs.Transform

/-!
The query for entries: it can be read, and it comes to nodes in every document.
-/

namespace ApiStubs
namespace XPath

variable {all : List Row}

-- Whether an attribute that says the kind of an entry holds a text.
def kindIs (kind : String) : Expr :=
  .binary .equal (.step .context .attributes (.name none (some "type")) []) (.literal kind)

-- The words and signs of the query for entries.
def entryTokens : List Token := [
  .slash, .axis .descendantOrSelf, .test .anyNode, .slash, .test (.name none (some "entries")),
  .slash, .test (.name none (some "entry")), .openBracket,
  .axis .attributes, .test (.name none (some "type")), .operator .equal, .literal "method",
  .operator .or,
  .axis .attributes, .test (.name none (some "type")), .operator .equal, .literal "property",
  .closeBracket]

-- What the query for entries says.
def entryExpr : Expr :=
  .step
    (.step (.step .root .descendantOrSelf .anyNode []) .child (.name none (some "entries")) [])
    .child (.name none (some "entry")) [.binary .or (kindIs "method") (kindIs "property")]

theorem read_entryQuery : Expr.read entryQuery = .ok entryExpr := by
  have hs : Token.scan entryQuery.toList = .ok entryTokens := rfl
  have hr : Expr.readTokens entryTokens = .ok entryExpr := rfl
  rw [Expr.read, hs]
  exact hr

-- The attributes of a node that say its kind.
def kindRows (all : List Row) (r : Row) : List Row :=
  inOrder all ((onAxis all .attributes r).filter (isNamed .attributes "type"))

def hasKind (all : List Row) (kind : String) (r : Row) : Bool :=
  (kindRows all r).any fun a => a.text == kind

theorem decides_kindIs (kind : String) : (kindIs kind).Decides all (hasKind all kind) := by
  intro r i n
  have hc : Expr.context.eval all ⟨r, i, n⟩ = .ok (.nodes [r]) := by rw [Expr.eval]
  have hl : (Expr.literal kind).eval all ⟨r, i, n⟩ = .ok (.text kind) := by rw [Expr.eval]
  have hs := eval_step_nil hc (admits_name .attributes "type")
  rw [List.flatMap_singleton] at hs
  exact eval_equal hs hl

-- The elements that may hold entries.
def holderRows (all : List Row) : List Row :=
  let inside := inOrder all <| (all.take 1).flatMap fun r =>
    (onAxis all .descendantOrSelf r).filter fun _ => true
  inOrder all <| inside.flatMap fun r => (onAxis all .child r).filter (isNamed .child "entries")

-- The entries that are rendered.
def entryRows (all : List Row) : List Row :=
  inOrder all <| (holderRows all).flatMap fun r =>
    ((onAxis all .child r).filter (isNamed .child "entry")).filter fun r =>
      hasKind all "method" r || hasKind all "property" r

theorem eval_entryExpr (c : Context) : entryExpr.eval all c = .ok (.nodes (entryRows all)) := by
  have hr : Expr.root.eval all c = .ok (.nodes (all.take 1)) := by rw [Expr.eval]
  have hi := eval_step_nil hr fun r =>
    (rfl : NodeTest.anyNode.admits .descendantOrSelf r = .ok true)
  have hh := eval_step_nil hi (admits_name .child "entries")
  exact eval_step_singleton hh (admits_name .child "entry") <|
    (decides_kindIs "method").or (decides_kindIs "property")

def Row.element? (r : Row) : Option Xml.Element :=
  match r.item with
  | .element e => some e
  | _ => none

end XPath

open XPath

-- The query never fails, whatever the document.
theorem select_entryQuery (d : Xml.Document) :
    select d entryQuery = .ok ((entryRows (rowsOf d)).filterMap Row.element?) := by
  have h : (Expr.read entryQuery >>= (·.evalAt d)) = .ok (.nodes (entryRows (rowsOf d))) := by
    rw [read_entryQuery]
    exact eval_entryExpr _
  rw [select, h]
  rfl

end ApiStubs
