import ApiStubs.Proofs.Results
import ApiStubs.XPath.Eval

/-!
What steps come to when none of their tests and predicates can fail.
-/

namespace ApiStubs.XPath

variable {all rows : List Row} {c : Context} {axis : Axis} {test : NodeTest} {p : Row → Bool}

theorem keepRows_eq_ok {test : Row → Nat → Except Error Bool} (h : ∀ r i, test r i = .ok (p r))
    (i : Nat) : keepRows test i rows = .ok (rows.filter p) := by
  induction rows generalizing i
  case nil => rfl
  case cons r rows hi =>
    rw [keepRows, h, hi, List.filter_cons]
    rfl

theorem inOrder_eq_filter (all found : List Row) :
    inOrder all found = all.filter fun r => (found.map (·.position)).contains r.position := by
  simp [inOrder]

-- The nodes on an axis in the order in which it counts them.
def onAxis (all : List Row) (axis : Axis) (r : Row) : List Row :=
  let found := all.filter (axis.relates r)
  if axis.isReverse then found.reverse else found

theorem stepRows_eq_ok (h : ∀ r, test.admits axis r = .ok (p r)) (r : Row) :
    stepRows all axis test r = .ok ((onAxis all axis r).filter p) :=
  keepRows_eq_ok (fun r _ => h r) 1

-- Whether a node has a name without a namespace.
def isNamed (axis : Axis) (name : String) (r : Row) : Bool :=
  (axis.names? r).any fun meant => meant.space.isNone && name = meant.localName

theorem admits_name (axis : Axis) (name : String) (r : Row) :
    (NodeTest.name none (some name)).admits axis r = .ok (isNamed axis name r) := by
  cases h : axis.names? r <;> simp [NodeTest.admits, isNamed, h]

-- An expression that says yes or no, whatever the place of its node among others.
def Expr.Decides (all : List Row) (e : Expr) (p : Row → Bool) : Prop :=
  ∀ r i n, e.eval all ⟨r, i, n⟩ = .ok (.boolean (p r))

theorem keepAll_nil (all rows : List Row) : Expr.keepAll all [] rows = .ok rows := by
  rw [Expr.keepAll]

theorem Expr.Decides.keepAll {e : Expr} (h : e.Decides all p) :
    Expr.keepAll all [e] rows = .ok (rows.filter p) := by
  have hk : ∀ r i, (do return (← e.eval all ⟨r, i, rows.length⟩).holdsAt i) = Except.ok (p r) := by
    intro r i
    rw [h r i]
    rfl
  rw [Expr.keepAll, keepRows_eq_ok hk]
  exact keepAll_nil all _

theorem Expr.Decides.or {a b : Expr} {p q : Row → Bool} (ha : a.Decides all p)
    (hb : b.Decides all q) :
    (Expr.binary .or a b).Decides all fun r => p r || q r := by
  intro r i n
  rw [Expr.eval, ha r i n, hb r i n]
  cases h : p r <;> simp [Value.toBool, h, bind, Except.bind, pure, Except.pure]

theorem eval_equal {a b : Expr} {x y : Value} (ha : a.eval all c = .ok x)
    (hb : b.eval all c = .ok y) :
    (Expr.binary .equal a b).eval all c = .ok (.boolean (x.equals y)) := by
  rw [Expr.eval, ha, hb]
  · rfl
  all_goals nofun

theorem eval_step {origin : Expr} {predicates : List Expr} {f : Row → List Row}
    (ho : origin.eval all c = .ok (.nodes rows))
    (hf : ∀ r ∈ rows, (stepRows all axis test r >>= Expr.keepAll all predicates) = .ok (f r)) :
    (Expr.step origin axis test predicates).eval all c =
      .ok (.nodes (inOrder all (rows.flatMap f))) := by
  rw [Expr.eval, ho, List.flatMap_def]
  change (rows.mapM fun r => stepRows all axis test r >>= Expr.keepAll all predicates).bind _ = _
  rw [mapM_eq_ok hf]
  rfl

-- A step without predicates.
theorem eval_step_nil {origin : Expr} (ho : origin.eval all c = .ok (.nodes rows))
    (ht : ∀ r, test.admits axis r = .ok (p r)) :
    (Expr.step origin axis test []).eval all c =
      .ok (.nodes (inOrder all (rows.flatMap fun r => (onAxis all axis r).filter p))) := by
  refine eval_step ho fun r _ => ?_
  rw [stepRows_eq_ok ht]
  exact keepAll_nil all _

-- A step whose only predicate says yes or no.
theorem eval_step_singleton {origin e : Expr} {q : Row → Bool}
    (ho : origin.eval all c = .ok (.nodes rows)) (ht : ∀ r, test.admits axis r = .ok (p r))
    (he : e.Decides all q) :
    (Expr.step origin axis test [e]).eval all c =
      .ok (.nodes (inOrder all
        (rows.flatMap fun r => ((onAxis all axis r).filter p).filter q))) := by
  refine eval_step ho fun r _ => ?_
  rw [stepRows_eq_ok ht]
  exact he.keepAll

end ApiStubs.XPath
