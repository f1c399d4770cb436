import ApiStubs.Number.Binary

/-!
The fewest decimal digits that read back as a given float, found in exact arithmetic.
-/

namespace ApiStubs.Number

-- The number `digits * 10 ^ exponent`.
structure Digits where
  digits : Nat
  exponent : Int
  deriving DecidableEq, Repr, Inhabited

structure Ratio where
  num : Nat
  den : Nat

def Ratio.le (a b : Ratio) : Bool := a.num * b.den ≤ b.num * a.den

def Ratio.lt (a b : Ratio) : Bool := a.num * b.den < b.num * a.den

-- The fraction `n * b ^ e`.
def scaled (n b : Nat) : Int → Ratio
  | .ofNat e => ⟨n * Nat.pow b e, 1⟩
  | .negSucc e => ⟨n, Nat.pow b (e + 1)⟩

def digitCount (n : Nat) : Nat :=
  (Nat.toDigits 10 n).length

-- The exponent of the first digit of a fraction that is not zero.
def leadingExponent (v : Ratio) : Int :=
  if v.den ≤ v.num then (digitCount (v.num / v.den) : Int) - 1
  else -(digitCount ((v.den + v.num - 1) / v.num - 1) : Int)

-- The numbers that round to a float: those between two fractions, the ends included or not.
structure Interval where
  low : Ratio
  high : Ratio
  closed : Bool

def Interval.holds (i : Interval) (v : Ratio) : Bool :=
  if i.closed then i.low.le v && v.le i.high else i.low.lt v && v.lt i.high

-- Of the two neighbours of `v` on the grid of multiples of `10 ^ k`, the nearer one that is in the
-- interval. Of two that are as near, the larger one.
def onGrid? (i : Interval) (v : Ratio) (k : Int) : Option Digits :=
  let below :=
    match k with
    | .ofNat k => v.num / (v.den * Nat.pow 10 k)
    | .negSucc k => v.num * Nat.pow 10 (k + 1) / v.den
  let above := below + 1
  let fits n := i.holds (scaled n 10 k)
  -- `below` is the nearer one if twice `v` is less than the sum of both.
  let middle := scaled (below + above) 10 k
  let twice : Ratio := ⟨2 * v.num, v.den⟩
  let first := if twice.lt middle then below else above
  let second := if first = below then above else below
  if fits first then some ⟨first, k⟩ else if fits second then some ⟨second, k⟩ else none

-- The first grid, from coarse to fine, on which a number of the interval lies.
def firstGrid (i : Interval) (v : Ratio) (k : Int) : Nat → Digits
  | 0 => ⟨0, 0⟩
  | fuel + 1 =>
    match onGrid? i v k with
    | some d => d
    | none => firstGrid i v (k - 1) fuel

-- The shortest digits for `m * 2 ^ q`, the value of a float with the significand `m`. Below a power
-- of two the floats are closer together, unless they are the smallest ones.
def shortest (m : Nat) (q : Int) : Digits :=
  let v := scaled m 2 q
  let low :=
    if m = Nat.pow 2 52 ∧ q ≠ Binary.leastExponent then scaled (4 * m - 1) 2 (q - 2)
    else scaled (2 * m - 1) 2 (q - 1)
  let high := scaled (2 * m + 1) 2 (q - 1)
  -- The first grid is one too coarse, for values just below a power of ten.
  firstGrid ⟨low, high, m % 2 == 0⟩ v (leadingExponent v + 1) 19

def ofSignificand (m : Nat) (e : Int) : Digits :=
  if m = 0 then ⟨0, 0⟩ else shortest m e

end ApiStubs.Number
