/-!
Floats taken apart by their bits: a sign, eleven bits of exponent, and 52 of the significand.
-/

namespace ApiStubs.Number

inductive Binary
  | nan
  | infinite (negative : Bool)
  -- The number `significand * 2 ^ exponent`. The smallest floats with full precision, and those
  -- that have less, share the least exponent.
  | finite (negative : Bool) (significand : Nat) (exponent : Int)
  deriving DecidableEq, Repr, Inhabited

namespace Binary

def leastExponent : Int := -1074

def ofFloat (x : Float) : Binary :=
  let bits := x.toBits.toNat
  let negative : Bool := bits / Nat.pow 2 63 == 1
  let exponent : Nat := bits / Nat.pow 2 52 % Nat.pow 2 11
  let fraction : Nat := bits % Nat.pow 2 52
  if exponent = 2047 then
    if fraction = 0 then .infinite negative else .nan
  else if exponent = 0 then .finite negative fraction leastExponent
  else .finite negative (Nat.pow 2 52 + fraction) ((exponent : Int) - 1 + leastExponent)

-- The float `m * 2 ^ e`, which has to be one.
def toFloat (negative : Bool) (m : Nat) (e : Int) : Float :=
  let x := (Float.ofNat m).scaleB e
  if negative then -x else x

end Binary

-- What is left of `x` after taking `y` away as often as it fits. The sign is that of `x`.
def remainder (x y : Float) : Float :=
  match Binary.ofFloat x, Binary.ofFloat y with
  | .finite _ _ _, .infinite _ => x
  | .finite negative m e, .finite _ n f =>
    let low := min e f
    if n = 0 then 0.0 / 0.0
    else
      Binary.toFloat negative (m * Nat.pow 2 (e - low).toNat % (n * Nat.pow 2 (f - low).toNat)) low
  | _, _ => 0.0 / 0.0

end ApiStubs.Number
