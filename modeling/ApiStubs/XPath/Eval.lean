import ApiStubs.XPath.Function
import Std.Data.HashSet

/-!
What expressions come to at a node of a document.
-/

namespace ApiStubs.XPath

-- Whether a node is of the kind that names on an axis are for.
def Axis.names? (axis : Axis) (r : Row) : Option Xml.Name :=
  match axis, r.item with
  | .attributes, .attribute a => some a.name
  | .attributes, _ => none
  | .namespaces, .label label _ => some { localName := label }
  | .namespaces, _ => none
  | _, .element e => some e.tag.name
  | _, _ => none

-- Whether a test admits a node of an axis. No label stands for a namespace in a query.
def NodeTest.admits (test : NodeTest) (axis : Axis) (r : Row) : Except Error Bool :=
  match test with
  | .anyNode => .ok true
  | .text => .ok (r.item matches .text _)
  | .comment => .ok (r.item matches .comment _)
  | .instruction target =>
    match r.item with
    | .instruction t _ => .ok (target.all (· = t))
    | _ => .ok false
  | .name label localName =>
    match axis.names? r, label with
    | none, _ => .ok false
    | some _, some label => .error (.unknownLabel label)
    | some meant, none => .ok (localName.all fun n => meant.space.isNone && n = meant.localName)

-- The rows that pass a test, to which their place among the rows is told.
def keepRows (test : Row → Nat → Except Error Bool) (position : Nat) :
    List Row → Except Error (List Row)
  | [] => .ok []
  | r :: rest => do
    let passes ← test r position
    let kept ← keepRows test (position + 1) rest
    return if passes then r :: kept else kept

-- The rows on an axis that a test admits, in the order in which the axis counts them.
def stepRows (all : List Row) (axis : Axis) (test : NodeTest) (r : Row) :
    Except Error (List Row) :=
  let found := all.filter (axis.relates r)
  keepRows (fun r _ => test.admits axis r) 1 (if axis.isReverse then found.reverse else found)

-- Rows in document order, each once.
def inOrder (all found : List Row) : List Row :=
  let positions := Std.HashSet.ofList (found.map (·.position))
  all.filter fun r => positions.contains r.position

theorem mem_inOrder {all found : List Row} {r : Row} :
    r ∈ inOrder all found ↔ r ∈ all ∧ ∃ f ∈ found, f.position = r.position := by
  simp [inOrder]

-- Whether a predicate holds: a number is the place at which it does, less its fraction.
def Value.holdsAt (v : Value) (position : Nat) : Bool :=
  match v with
  | .number x => x.toUInt64.toNat == position
  | v => v.toBool

def Value.rows? : Value → Except Error (List Row)
  | .nodes rows => .ok rows
  | _ => .error .notNodes

-- Operators on values. The logical ones are none of these, since they may leave out an operand.
def Operator.apply (all : List Row) (op : Operator) (a b : Value) : Except Error Value :=
  match op with
  | .or => .ok (.boolean (a.toBool || b.toBool))
  | .and => .ok (.boolean (a.toBool && b.toBool))
  | .equal => .ok (.boolean (a.equals b))
  | .unequal => .ok (.boolean !a.equals b)
  | .less => .ok (.boolean (a.toNumber < b.toNumber))
  | .lessEqual => .ok (.boolean (a.toNumber ≤ b.toNumber))
  | .greater => .ok (.boolean (a.toNumber > b.toNumber))
  | .greaterEqual => .ok (.boolean (a.toNumber ≥ b.toNumber))
  | .plus => .ok (.number (a.toNumber + b.toNumber))
  | .minus => .ok (.number (a.toNumber - b.toNumber))
  | .times => .ok (.number (a.toNumber * b.toNumber))
  | .divide => .ok (.number (a.toNumber / b.toNumber))
  | .modulo => .ok (.number (Number.remainder a.toNumber b.toNumber))
  | .union => do return .nodes (inOrder all ((← a.rows?) ++ (← b.rows?)))

mutual

-- The value of an expression in a document with the given rows.
def Expr.eval (all : List Row) : Expr → Context → Except Error Value
  | .root, _ => .ok (.nodes (all.take 1))
  | .context, c => .ok (.nodes [c.row])
  | .step origin axis test predicates, c => do
    let start ← (← origin.eval all c).rows?
    let found ← start.mapM fun r => do
      Expr.keepAll all predicates (← stepRows all axis test r)
    return .nodes (inOrder all found.flatten)
  | .filter origin predicate, c => do
    let rows ← (← origin.eval all c).rows?
    let kept ← keepRows (fun r i => do
      return (← predicate.eval all ⟨r, i, rows.length⟩).holdsAt i) 1 rows
    return .nodes kept
  | .binary .or a b, c => do
    if (← a.eval all c).toBool then return .boolean true
    return .boolean (← b.eval all c).toBool
  | .binary .and a b, c => do
    if !(← a.eval all c).toBool then return .boolean false
    return .boolean (← b.eval all c).toBool
  | .binary op a b, c => do
    let x ← a.eval all c
    let y ← b.eval all c
    op.apply all x y
  | .negate e, c => do return .number (-(← e.eval all c).toNumber)
  | .literal text, _ => .ok (.text text)
  | .number value, _ => .ok (.number value)
  | .reference name, _ => .error (.unknownVariable name)
  | .call name arguments, c => do callFunction all c name (← Expr.evalAll all arguments c)

-- The rows that pass all predicates, each of which counts the rows that the one before it left.
def Expr.keepAll (all : List Row) : List Expr → List Row → Except Error (List Row)
  | [], rows => .ok rows
  | predicate :: rest, rows => do
    let kept ← keepRows (fun r i => do
      return (← predicate.eval all ⟨r, i, rows.length⟩).holdsAt i) 1 rows
    Expr.keepAll all rest kept

def Expr.evalAll (all : List Row) : List Expr → Context → Except Error (List Value)
  | [], _ => .ok []
  | e :: es, c => do
    let v ← e.eval all c
    let vs ← Expr.evalAll all es c
    return v :: vs

end

def Expr.evalAt (d : Xml.Document) (e : Expr) : Except Error Value :=
  e.eval (rowsOf d) ⟨rootRow d, 1, 1⟩

end ApiStubs.XPath
